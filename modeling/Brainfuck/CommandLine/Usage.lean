/-!
# Texts of the command line

What the command line says about itself.
-/

namespace Brainfuck.CommandLine

def versionNumber : String := "0.1.0"

/-- What is printed when no file is named. -/
def summary : String := "Usage: bfi [options] FILE"

def inputPrompt : String := "Waiting for input: "

/-- How the command line is put together; printed before every complaint. -/
def usageText : String :=
  "usage: bfi [-h] [--eof \x7bzero,unchanged,max\x7d] [--line-input] [--prompt]\n" ++
  "           [--minify] [--dump N] [--time] [-v] [--version]\n" ++
  "           [file]\n"

def helpText : String :=
  usageText ++ "\n" ++
  "Brainfuck interpreter (30000 cells, 8-bit wrapping cells, stdin/stdout I/O).\n" ++
  "\n" ++
  "positional arguments:\n" ++
  "  file                  Brainfuck source file\n" ++
  "\n" ++
  "options:\n" ++
  "  -h, --help            show this help message and exit\n" ++
  "  --eof \x7bzero,unchanged,max\x7d\n" ++
  "                        Value ',' stores at end of input (default: zero)\n" ++
  "  --line-input          After each ',' discard the rest of the input line\n" ++
  "  --prompt              Write a prompt to stderr before every ','\n" ++
  "  --minify              Write FILE.min with only the commands and exit\n" ++
  "  --dump N              Print the first N cells to stderr after the run\n" ++
  "  --time                Report load and execution time on stderr\n" ++
  "  -v, --verbose         More logging (-v, -vv)\n" ++
  "  --version             show program's version number and exit\n"

end Brainfuck.CommandLine
