import TapeMachine.Cli.Options

/-! The help on the command line. -/

namespace TapeMachine.Cli

/-- What a wrong command line is told. -/
def usage : String := "Usage: bfvm [OPTIONS] [FILE]\n"

def about : String := "Tape machine for the eight instruction brainf**k language\n"

/-- The short help, a line for each option. -/
def shortHelp : String :=
  about ++ "\n" ++ usage
    ++ "\nArguments:\n"
    ++ "  [FILE]  The file to run, the built-in hello world when omitted\n"
    ++ "\nOptions:\n"
    ++ "  -t, --tape-size <TAPE_SIZE>          [default: 30000]\n"
    ++ "  -l, --load-address <LOAD_ADDRESS>    Cell the program is written to [default: 0]\n"
    ++ "  -s, --start-address <START_ADDRESS>  "
    ++ "Cell execution starts at, defaults to the load address\n"
    ++ "  -i, --input-mode <INPUT_MODE>        "
    ++ "[default: bytes] [possible values: bytes, decimal]\n"
    ++ "  -e, --eof <EOF>                      "
    ++ "[default: zero] [possible values: zero, unchanged, fault]\n"
    ++ "  -m, --max-steps <MAX_STEPS>          Give up after this many instructions\n"
    ++ "  -d, --dump                           "
    ++ "Print the registers and tape to stderr once the run ends\n"
    ++ "      --tokens                         Print the lexed program and exit\n"
    ++ "  -h, --help                           Print help (see more with '--help')\n"
    ++ "  -V, --version                        Print version\n"

/-- Lines of the long help below what they are about. -/
def indented (lines : List String) : String :=
  String.join (lines.map (fun line => "          " ++ line ++ "\n"))

/-- An entry of the long help. -/
def longEntry (subject : String) (lines : List String) : String :=
  "  " ++ subject ++ "\n" ++ indented lines

/-- The long help, which says what the input modes are too. -/
def longHelp : String :=
  about ++ "\n" ++ usage
    ++ "\nArguments:\n"
    ++ longEntry "[FILE]" ["The file to run, the built-in hello world when omitted"]
    ++ "\nOptions:\n"
    ++ "\n".intercalate [
      longEntry "-t, --tape-size <TAPE_SIZE>" ["[default: 30000]"],
      longEntry "-l, --load-address <LOAD_ADDRESS>"
        ["Cell the program is written to", "", "[default: 0]"],
      longEntry "-s, --start-address <START_ADDRESS>"
        ["Cell execution starts at, defaults to the load address"],
      longEntry "-i, --input-mode <INPUT_MODE>" ["[default: bytes]"] ++ "\n"
        ++ indented ["Possible values:", "- bytes:   Every byte of stdin is one value",
          "- decimal: Whitespace separated integers, clamped to a byte"],
      longEntry "-e, --eof <EOF>"
        ["[default: zero]", "[possible values: zero, unchanged, fault]"],
      longEntry "-m, --max-steps <MAX_STEPS>" ["Give up after this many instructions"],
      longEntry "-d, --dump" ["Print the registers and tape to stderr once the run ends"],
      longEntry "    --tokens" ["Print the lexed program and exit"],
      longEntry "-h, --help" ["Print help (see a summary with '-h')"],
      longEntry "-V, --version" ["Print version"]]

def helpText : HelpForm → String
  | .short => shortHelp
  | .long => longHelp

end TapeMachine.Cli
