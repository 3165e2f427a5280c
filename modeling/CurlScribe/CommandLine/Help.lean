/-
This file holds the texts that the program prints about itself.
-/

namespace CurlScribe

/-- The version of the program. -/
def versionText : String := "curl-to-go 0.1.0\n"

/-- What the program is for, and how it is called. -/
def usageLines : List String :=
  ["Convert curl commands into Go net/http code",
   "",
   "Usage: curl-to-go [OPTIONS] [COMMAND]...",
   "",
   "Arguments:"]

/-- All there is to say about the arguments and options. -/
def fullHelpLines : List String :=
  ["  [COMMAND]...",
   "          The curl command to convert, as one quoted string or as separate words. " ++
     "Read from stdin",
   "          when omitted or `-`",
   "",
   "Options:",
   "      --type-name <NAME>",
   "          Name of the Go struct generated for JSON bodies",
   "",
   "      --standalone",
   "          Wrap the output in a complete `package main` program",
   "",
   "      --no-banner",
   "          Omit the leading `// Generated by curl-to-go` comment",
   "",
   "      --gofmt",
   "          Pipe the result through gofmt (falls back to unformatted output)",
   "",
   "      --log-format <FORMAT>",
   "          Output format for diagnostics on stderr: json (JSON Lines) or text (default)",
   "",
   "          Possible values:",
   "          - text: Plain text output (default)",
   "          - json: JSON Lines format for parsing",
   "",
   "      --debug",
   "          Debug mode (verbose logging, detailed errors)",
   "",
   "  -h, --help",
   "          Print help (see a summary with '-h')",
   "",
   "  -V, --version",
   "          Print version"]

/-- The arguments and options in short. -/
def shortHelpLines : List String :=
  ["  [COMMAND]...  The curl command to convert, as one quoted string or as separate words. " ++
     "Read from",
   "                stdin when omitted or `-`",
   "",
   "Options:",
   "      --type-name <NAME>     Name of the Go struct generated for JSON bodies",
   "      --standalone           Wrap the output in a complete `package main` program",
   "      --no-banner            Omit the leading `// Generated by curl-to-go` comment",
   "      --gofmt                Pipe the result through gofmt (falls back to unformatted output)",
   "      --log-format <FORMAT>  Output format for diagnostics on stderr: json (JSON Lines) " ++
     "or text",
   "                             (default) [possible values: text, json]",
   "      --debug                Debug mode (verbose logging, detailed errors)",
   "  -h, --help                 Print help (see more with '--help')",
   "  -V, --version              Print version"]

/-- The help, in full or as a summary. -/
def helpText (full : Bool) : String :=
  String.join ((usageLines ++ if full then fullHelpLines else shortHelpLines).map (· ++ "\n"))

end CurlScribe
