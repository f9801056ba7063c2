import LineHighlight.CommandLine.Options
import LineHighlight.Text.Lines

/-!
# Printed texts of the command line

The usage lines, the help page, the version line, and the wording of a usage failure.
-/

namespace LineHighlight.CommandLine

/-- The name of the program. -/
def programName : Text := "hlserve".toList

/-- The version of the program. -/
def programVersion : Text := "0.1.0".toList

/-- The names of the engines in braces, as the options list them. -/
def engineChoices : Text := '\x7b' :: Text.join [','] engineNames ++ ['\x7d']

/-- The usage lines. -/
def usage : Text :=
  Text.unlines
    ["usage: hlserve [-h] [--engine ".toList ++ engineChoices ++ "] [--alias FLAG=NAME]".toList,
     "               [--css-prefix PREFIX] [--log-level LOG_LEVEL]".toList,
     "               [--list-languages] [--version]".toList]

/-- What the help page says after the usage lines. -/
def helpLines : List Text :=
  ["".toList,
   "Persistent syntax highlighting server. Reads a language line, TAB-prefixed".toList,
   "code lines and a blank line; answers with HTML followed by an EOT line.".toList,
   "".toList,
   "options:".toList,
   "  -h, --help            show this help message and exit".toList,
   "  --engine ".toList ++ engineChoices,
   "                        highlighting engine (default: pygments)".toList,
   "  --alias FLAG=NAME     map a language flag to another name before lookup".toList,
   "                        (repeatable)".toList,
   "  --css-prefix PREFIX   prefix for the CSS classes of highlighted spans".toList,
   "  --log-level LOG_LEVEL".toList,
   "                        stderr log level (default: WARNING)".toList,
   "  --list-languages      print the languages Pygments knows and exit".toList,
   "  --version             show program's version number and exit".toList]

/-- The help page. -/
def helpPage : Text := usage ++ Text.unlines helpLines

/-- The version line. -/
def versionLine : Text := programName ++ ' ' :: programVersion ++ ['\n']

/-- What is written to the error stream about a usage failure. -/
def UsageFailure.report (f : UsageFailure) : Text :=
  usage ++ programName ++ ": error: ".toList ++ f.message ++ ['\n']

end LineHighlight.CommandLine
