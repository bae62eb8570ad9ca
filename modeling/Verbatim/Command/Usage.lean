import Verbatim.Text.Position

/-!
# Usage and help

The fixed texts that the command prints about itself, at a width of eighty
columns.
-/

namespace Verbatim.Command

def paragraph (lines : List String) : Text :=
  lines.flatMap fun line => line.toList ++ ['\n']

def programName : Text := "py -m rawquote".toList

def usageText : Text :=
  paragraph
    ["usage: py -m rawquote [-h] [-i] [--json] [--indent] [--quote QUOTE]",
      "                      [--whitespace \x7bascii,normal,unicode\x7d] [--no-compat]",
      "                      [--strict]",
      "                      [source_path]"]

/-- The synopsis and what everything in it means. -/
def helpText : Text :=
  usageText ++ paragraph
    ["",
      "Extract the verbatim string literals from a text file, or try them out",
      "interactively. Every run of three or more quote characters is taken to open a",
      "verbatim string. Each literal's final value is printed along with where it was",
      "found; malformed literals get an error message with an illustrated excerpt,",
      "and scanning continues.",
      "",
      "positional arguments:",
      "  source_path           path to input file; omit for an interactive session",
      "",
      "options:",
      "  -h, --help            show this help message and exit",
      "  -i, --interactive     read literals from the terminal, one at a time.",
      "  --json                print the literals as a JSON list instead of one per",
      "                        line.",
      "  --indent              indent the JSON output for easier reading.",
      "  --quote QUOTE         characters which may form a marker (default: \")",
      "  --whitespace \x7bascii,normal,unicode\x7d",
      "                        what counts as whitespace (default: normal)",
      "  --no-compat           do not warn about markers the old grammar read",
      "                        differently.",
      "  --strict              exit with an error status if any literal is malformed."]

/-- What is printed when a command line cannot be understood. -/
def refusal (problem : Text) : Text :=
  usageText ++ programName ++ ": error: ".toList ++ problem ++ ['\n']

end Verbatim.Command
