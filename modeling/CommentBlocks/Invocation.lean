import CommentBlocks.Command

namespace CommentBlocks

structure Invocation where
  verbose : Bool := false
  config : Path
  command : Option Command := none
  deriving DecidableEq, Repr

namespace Invocation

inductive Stop where
  | help
  | version
  | unknownArgument
  | unknownCommand
  | missingFiles
  | missingValue
  | badNumber
  | conflict
  | surplusValue
  deriving DecidableEq, Repr

def Stop.code : Stop → Nat
  | .help => 0
  | .version => 0
  | _ => 2

def defaultConfig : Path := ⟨"toggler.toml".toList⟩

def programName : String := "comment-toggler"

def greeting : String :=
  programName ++ " Comment build-block processor\n\n" ++
  "Run " ++ programName ++ " --help for available commands.\n"

def usage : String :=
  "Comment, uncomment and toggle build blocks in text files\n\n" ++
  "Usage: " ++ programName ++ " [-v] [-c FILE] COMMAND\n\n" ++
  "  process [OPTIONS] FILE...    process files, in place or below --out-dir DIR\n" ++
  "  run [OPTIONS] [TARGET...]    process the files of targets, of all if none is named\n" ++
  "  targets                      list the targets of the settings file\n" ++
  "  help [COMMAND]               print this text\n\n" ++
  "Options: --remove-directives | --keep-directives, --padding N, --dry-run | --check\n"

def Stop.message : Stop → String
  | .help => usage
  | .version => programName ++ " 0.1.0\n"
  | .unknownArgument => "error: unexpected argument\n"
  | .unknownCommand => "error: unrecognized command\n"
  | .missingFiles => "error: no files are named\n"
  | .missingValue => "error: an option or a file name has no value\n"
  | .badNumber => "error: the padding is not a number\n"
  | .conflict => "error: an argument is repeated or excludes another\n"
  | .surplusValue => "error: a flag has a value\n"

def execute (i : Invocation) (d : Disk) : Ending :=
  match i.command with
  | none => ⟨d, greeting, "", none⟩
  | some c => c.execute i.config d

end Invocation
end CommentBlocks
