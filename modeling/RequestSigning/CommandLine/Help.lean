import RequestSigning.CommandLine.Command

/-!
# Usage and help texts
-/

namespace RequestSigning.CommandLine

def paragraph (lines : List String) : String := String.join (lines.map (· ++ "\n"))

namespace Command

/-- How a command is called. -/
def usage : Command → String
  | program => paragraph
    ["usage: atmos-sign [-h] [--version] [--check-compatibility] [--verbose]",
     "                  \x7bstring-to-sign,sign,credentials\x7d ..."]
  | stringToSign => paragraph
    ["usage: atmos-sign string-to-sign [-h] [--method METHOD] --path PATH",
     "                                 [--header NAME:VALUE]",
     "                                 [--content-type CONTENT_TYPE] [--date DATE]",
     "                                 [--uid UID]"]
  | sign => paragraph
    ["usage: atmos-sign sign [-h] [--method METHOD] --path PATH",
     "                       [--header NAME:VALUE] [--content-type CONTENT_TYPE]",
     "                       [--date DATE] [--uid UID] [--secret SECRET] [--keyring]",
     "                       [--show-string-to-sign]"]
  | credentials => paragraph ["usage: atmos-sign credentials [-h] \x7bstore,delete\x7d ..."]
  | store => paragraph ["usage: atmos-sign credentials store [-h] --uid UID --secret SECRET"]
  | delete => paragraph ["usage: atmos-sign credentials delete [-h] --uid UID"]

def explanation : Command → String
  | program => paragraph
    ["Atmos SDK command-line interface for request signing",
     "",
     "positional arguments:",
     "  \x7bstring-to-sign,sign,credentials\x7d",
     "                        Available commands",
     "    string-to-sign      Print the canonical string for a request",
     "    sign                Print the signed headers for a request",
     "    credentials         Manage secrets in the OS keyring",
     "",
     "options:",
     "  -h, --help            show this help message and exit",
     "  --version             show program's version number and exit",
     "  --check-compatibility",
     "                        Check platform compatibility and exit",
     "  --verbose             Log canonical strings and signed requests to stderr"]
  | stringToSign => paragraph
    ["options:",
     "  -h, --help            show this help message and exit",
     "  --method METHOD       HTTP method (default: GET)",
     "  --path PATH           Request path or URL, e.g. /rest/objects",
     "  --header NAME:VALUE   Request header; repeat for several headers or values",
     "  --content-type CONTENT_TYPE",
     "                        Payload content type",
     "  --date DATE           Date header value (default: now)",
     "  --uid UID             Include an x-emc-uid header with this value"]
  | sign => paragraph
    ["options:",
     "  -h, --help            show this help message and exit",
     "  --method METHOD       HTTP method (default: GET)",
     "  --path PATH           Request path or URL, e.g. /rest/objects",
     "  --header NAME:VALUE   Request header; repeat for several headers or values",
     "  --content-type CONTENT_TYPE",
     "                        Payload content type",
     "  --date DATE           Date header value (default: now)",
     "  --uid UID             Account uid (default: $ATMOS_UID)",
     "  --secret SECRET       Base64 shared secret (default: $ATMOS_SECRET)",
     "  --keyring             Read the shared secret for --uid from the OS keyring",
     "  --show-string-to-sign",
     "                        Also print the canonical string"]
  | credentials => paragraph
    ["positional arguments:",
     "  \x7bstore,delete\x7d",
     "    store         Store a shared secret",
     "    delete        Delete a stored shared secret",
     "",
     "options:",
     "  -h, --help      show this help message and exit"]
  | store => paragraph
    ["options:",
     "  -h, --help       show this help message and exit",
     "  --uid UID        Account uid",
     "  --secret SECRET  Base64 shared secret"]
  | delete => paragraph
    ["options:",
     "  -h, --help  show this help message and exit",
     "  --uid UID   Account uid"]

def help (c : Command) : String := c.usage ++ "\n" ++ c.explanation

end Command

def version : String := "0.1.0"

def versionText : String := paragraph ["Atmos Python SDK " ++ version]

end RequestSigning.CommandLine
