import Swatch.Text.Basic

/-!
The texts that tell about the program: its version, and the summary of its command line for a
terminal of eighty columns.
-/
namespace Swatch.CommandLine

/-- The name the program is called by. -/
def programName : Text := "colorfmt".toList

/-- The line that tells the version. -/
def versionText : Text := "colorfmt 0.1.0\n".toList

/-- The lines of the summary. -/
def helpLines : List String := [
  "usage: colorfmt [-h] [--format NAME | --custom FORMAT | --template NAME]",
  "                [--config FILE] [--edit] [--verbose] [--version]",
  "                [COLOR ...]",
  "",
  "Render color samples with a preset or a custom template",
  "",
  "positional arguments:",
  "  COLOR                 Colors to render (#rrggbb, #aarrggbb, 0xAARRGGBB or",
  "                        r,g,b); read from stdin if omitted",
  "",
  "options:",
  "  -h, --help            show this help message and exit",
  "  --format NAME, -f NAME",
  "                        Output format, one of hex, HEX, hex!, HEX!, plain, rgb",
  "                        (defaults to hex)",
  "  --custom FORMAT, -c FORMAT",
  "                        Custom output format",
  "  --template NAME, -t NAME",
  "                        Named custom format from the configuration file",
  "  --config FILE         Configuration file path (default:",
  "                        ~/.config/colorfmt/config.yaml)",
  "  --edit, -e            Edit the custom format interactively and print it (not",
  "                        with --format)",
  "  --verbose, -v         Enable debug logging",
  "  --version, -V         show program's version number and exit",
  "",
  "Example: colorfmt -c 'Green: %\x7b-4g\x7d' '#00ff00'"]

/-- The summary of the command line. -/
def helpText : Text := helpLines.flatMap fun line => line.toList ++ ['\n']

end Swatch.CommandLine
