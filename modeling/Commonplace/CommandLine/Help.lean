/-
The texts that the command line gives about itself.
-/
import Commonplace.Text

namespace Commonplace

namespace Help

def version : List Text := ["sayings 0.3.2".toList]

def purpose : Text :=
  "Run a file of ADD / REM / PRINT commands against a store of aphorisms and proverbs".toList

def usage : Text := "Usage: sayings [OPTIONS] [FILE]".toList

def short : List Text :=
  [purpose,
   [],
   usage,
   [],
   "Arguments:".toList,
   "  [FILE]  Command file to execute (defaults to the configured input file)".toList,
   [],
   "Options:".toList,
   "  -o, --output <OUTPUT>  How PRINT renders records [possible values: text, json]".toList,
   "      --no-color         Disable colored diagnostics".toList,
   "  -v, --verbose          Verbose output (debug logs on stderr)".toList,
   "  -h, --help             Print help (see more with '--help')".toList,
   "  -V, --version          Print version".toList]

def long : List Text :=
  [purpose,
   [],
   usage,
   [],
   "Arguments:".toList,
   "  [FILE]".toList,
   "          Command file to execute (defaults to the configured input file)".toList,
   [],
   "Options:".toList,
   "  -o, --output <OUTPUT>".toList,
   "          How PRINT renders records".toList,
   [],
   "          Possible values:".toList,
   "          - text: `[TAG] content=\"...\" field=\"...\"`".toList,
   "          - json: One JSON object per record".toList,
   [],
   "      --no-color".toList,
   "          Disable colored diagnostics".toList,
   [],
   "  -v, --verbose".toList,
   "          Verbose output (debug logs on stderr)".toList,
   [],
   "  -h, --help".toList,
   "          Print help (see a summary with '-h')".toList,
   [],
   "  -V, --version".toList,
   "          Print version".toList]

end Help

end Commonplace
