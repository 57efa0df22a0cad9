import PasteRules.CommandLine.Options

/-! What the command says about itself. -/
namespace PasteRules.CommandLine

def commandName : String := "pastetransform"

def usageLine : String :=
  "usage: pastetransform [-h] [-v] [-s settings.json] [-m] [-c] [-x] [text ...]"

/-- The description of the command, below the usage line. -/
def descriptionLines : List String := [
  "Transform text with Paste-Transform rules (first matching rule wins).",
  "",
  "positional arguments:",
  "  text                  text to be transformed (each argument separately); if",
  "                        none is given, standard input is transformed as a",
  "                        whole",
  "",
  "options:",
  "  -h, --help            show this help message and exit",
  "  -v, --version         show program's version number and exit",
  "  -s settings.json, --settings settings.json",
  "                        name of JSON settings file (default",
  "                        \x60pastetransform.json\x60; if the file does not exist, the",
  "                        built-in rules are used)",
  "  -m, --migrate         write the migrated settings back to the settings file",
  "  -c, --check           report, for every link, whether it compiles to a rule",
  "                        (and if not, why not)",
  "  -x, --verbose         run in verbose (debug) mode (prints every",
  "                        transformation applied)"]

def helpText : String :=
  usageLine ++ "\n\n" ++ String.join (descriptionLines.map (· ++ "\n"))

def versionText : String := commandName ++ " version 1.0.0\n"

def UsageError.report (e : UsageError) : String :=
  usageLine ++ "\n" ++ commandName ++ ": error: " ++ e.message ++ "\n"

end PasteRules.CommandLine
