import Toolwrap.Memory
/-!
Functions that every wrapper carries, and those of wrappers that start a container. They are fixed
texts: the wrapper of a component calls them, and nothing of the component goes into them.
-/
namespace Toolwrap.Wrapper.Functions

/-- The number of bytes of a unit, as the wrapper writes it. -/
def size (u : Memory.ByteUnit) : String := toString u.bytes

/-- The directory of a container below which the paths of the host appear. -/
def automountRoot : String := "/bw_automount"

/-- Messages to the error stream, under the name of the component. -/
def reporting : List String := [
  "# bw_error / bw_warning: print a message to stderr",
  "function bw_error \x7b",
  "  echo \"[$BW_META_FUNCTIONALITY_NAME] ERROR: $*\" >&2",
  "\x7d",
  "function bw_warning \x7b",
  "  echo \"[$BW_META_FUNCTIONALITY_NAME] WARNING: $*\" >&2",
  "\x7d"]

/-- The directory of a file, behind all links. -/
def sourceDir : List String := [
  "# bw_source_dir: directory of a file, following symlinks",
  "# examples:",
  "#   bw_source_dir \"$\x7bBASH_SOURCE[0]\x7d\"",
  "function bw_source_dir \x7b",
  "  local source=\"$1\"",
  "  local dir",
  "  while [ -h \"$source\" ]; do",
  "    dir=\"$(cd -P \"$(dirname \"$source\")\" >/dev/null 2>&1 && pwd)\"",
  "    source=\"$(readlink \"$source\")\"",
  "    if [[ \"$source\" != /* ]]; then",
  "      source=\"$dir/$source\"",
  "    fi",
  "  done",
  "  cd -P \"$(dirname \"$source\")\" >/dev/null 2>&1 && pwd",
  "\x7d"]

/-- Whether a text is a number or a truth value, which of two decimal numbers is less, and whether a
text is one of several. -/
def typeChecks : List String := [
  "# bw_is_integer / bw_is_double / bw_is_boolean: type predicates",
  "function bw_is_integer \x7b",
  "  local regex='^[-+]?[0-9]+$'",
  "  [[ \"$1\" =~ $regex ]]",
  "\x7d",
  "function bw_is_double \x7b",
  "  local regex='^[-+]?(\\.[0-9]+|[0-9]+(\\.[0-9]*)?)([eE][-+]?[0-9]+)?$'",
  "  [[ \"$1\" =~ $regex ]]",
  "\x7d",
  "function bw_is_boolean \x7b",
  "  local regex='^(true|True|TRUE|false|False|FALSE|yes|Yes|YES|no|No|NO)$'",
  "  [[ \"$1\" =~ $regex ]]",
  "\x7d",
  "",
  "# bw_double_less A B: succeeds when A < B",
  "function bw_double_less \x7b",
  "  awk -v a=\"$1\" -v b=\"$2\" 'BEGIN \x7b exit !(a + 0 < b + 0) \x7d'",
  "\x7d",
  "",
  "# bw_in_array VALUE CHOICE...: succeeds when VALUE is one of the choices",
  "function bw_in_array \x7b",
  "  local needle=\"$1\"",
  "  local item",
  "  shift",
  "  for item in \"$@\"; do",
  "    if [ \"$item\" = \"$needle\" ]; then",
  "      return 0",
  "    fi",
  "  done",
  "  return 1",
  "\x7d"]

/-- Which of two integers of any length is less: signs first, then lengths, then digits. -/
def integerLess : List String := [
  "# bw_integer_less A B: succeeds when A < B, for integers of any length",
  "# examples:",
  "#   bw_integer_less 9 10                     # true",
  "#   bw_integer_less 10 99999999999999999999  # true",
  "function bw_integer_less \x7b",
  "  local a=\"$1\" b=\"$2\" sa=+ sb=+ lt",
  "  case \"$a\" in -*) sa=-; a=\"$\x7ba#-\x7d\" ;; +*) a=\"$\x7ba#+\x7d\" ;; esac",
  "  case \"$b\" in -*) sb=-; b=\"$\x7bb#-\x7d\" ;; +*) b=\"$\x7bb#+\x7d\" ;; esac",
  "  # 앞자리 0 제거, -0 은 0",
  "  a=\"$\x7ba#\"$\x7ba%%[!0]*\x7d\"\x7d\"",
  "  b=\"$\x7bb#\"$\x7bb%%[!0]*\x7d\"\x7d\"",
  "  if [ -z \"$a\" ]; then sa=+; fi",
  "  if [ -z \"$b\" ]; then sb=+; fi",
  "  if [ \"$sa\" != \"$sb\" ]; then",
  "    [ \"$sa\" = \"-\" ]",
  "    return",
  "  fi",
  "  if [ \"$a\" = \"$b\" ]; then",
  "    return 1",
  "  fi",
  "  if [ $\x7b#a\x7d -ne $\x7b#b\x7d ]; then",
  "    [ $\x7b#a\x7d -lt $\x7b#b\x7d ]",
  "    lt=$?",
  "  else",
  "    [[ \"$a\" < \"$b\" ]]",
  "    lt=$?",
  "  fi",
  "  if [ \"$sa\" = \"-\" ]; then",
  "    [ $lt -ne 0 ]",
  "    return",
  "  fi",
  "  return $lt",
  "\x7d"]

/-- An amount of memory in bytes, rounded down, computed in 64-bit steps that never overflow. -/
def memoryAsBytes : List String := [
  "# bw_memory_as_bytes: convert a memory string (512MB, 2gb, 1.5TB) to bytes",
  "# examples:",
  "#   bw_memory_as_bytes 2GB  # 2147483648",
  "function bw_memory_as_bytes \x7b",
  "  local memory",
  "  memory=$(echo \"$1\" | tr '[:upper:]' '[:lower:]' | tr -d '[:space:]')",
  "  local regex='^([0-9]+(\\.[0-9]+)?|\\.[0-9]+)([kmgtp]?b?)$'",
  "  if [[ ! \"$memory\" =~ $regex ]]; then",
  "    bw_error \"Invalid memory value '$1': expected e.g. 512MB, 2GB or 1.5TB.\"",
  "    return 1",
  "  fi",
  "  local number=\"$\x7bBASH_REMATCH[1]\x7d\"",
  "  local multiplier",
  "  case \"$\x7bBASH_REMATCH[3]\x7d\" in",
  "    ''|b) multiplier=" ++ size .b ++ " ;;",
  "    k|kb) multiplier=" ++ size .kb ++ " ;;",
  "    m|mb) multiplier=" ++ size .mb ++ " ;;",
  "    g|gb) multiplier=" ++ size .gb ++ " ;;",
  "    t|tb) multiplier=" ++ size .tb ++ " ;;",
  "    p|pb) multiplier=" ++ size .pb ++ " ;;",
  "  esac",
  "  local int_part=\"$\x7bnumber%.*\x7d\"",
  "  local frac_part=\"\"",
  "  if [[ \"$number\" == *.* ]]; then",
  "    frac_part=\"$\x7bnumber#*.\x7d\"",
  "  fi",
  "  int_part=\"$\x7bint_part#\"$\x7bint_part%%[!0]*\x7d\"\x7d\"",
  "  int_part=\"$\x7bint_part:-0\x7d\"",
  "  # 소수부는 뒤 자리부터 floor((digit * multiplier + carry) / 10)",
  "  local frac_bytes=0 i",
  "  for (( i = $\x7b#frac_part\x7d - 1; i >= 0; i-- )); do",
  "    frac_bytes=$(( ($\x7bfrac_part:i:1\x7d * multiplier + frac_bytes) / 10 ))",
  "  done",
  "  if bw_integer_less $(( (" ++ toString Memory.maxBytes ++ " - frac_bytes) / multiplier )) \"$int_part\"; then",
  "    bw_error \"Memory value '$1' is too large: at most " ++ toString Memory.maxBytes ++ " bytes are supported.\"",
  "    return 1",
  "  fi",
  "  echo $(( 10#$int_part * multiplier + frac_bytes ))",
  "\x7d"]

/-- A path without dots, seen from the root; it need not exist. -/
def absolutePath : List String := [
  "# bw_absolute_path: normalise a path without requiring it to exist",
  "# examples:",
  "#   bw_absolute_path some_file.txt  # /path/to/some_file.txt",
  "#   bw_absolute_path /foo/bar/..    # /foo",
  "function bw_absolute_path \x7b",
  "  local the_path",
  "  if [[ ! \"$1\" =~ ^/ ]]; then",
  "    the_path=\"$PWD/$1\"",
  "  else",
  "    the_path=\"$1\"",
  "  fi",
  "  echo \"$the_path\" | (",
  "    IFS=/",
  "    read -r -a parr",
  "    declare -a outp",
  "    for i in \"$\x7bparr[@]\x7d\"; do",
  "      case \"$i\" in",
  "      ''|.) continue ;;",
  "      ..)",
  "        len=$\x7b#outp[@]\x7d",
  "        if ((len != 0)); then",
  "          unset \"outp[$((len - 1))]\"",
  "        fi",
  "        ;;",
  "      *)",
  "        len=$\x7b#outp[@]\x7d",
  "        outp[$len]=\"$i\"",
  "        ;;",
  "      esac",
  "    done",
  "    echo /\"$\x7boutp[*]\x7d\"",
  "  )",
  "\x7d"]

/-- Where a path of the host appears in the container, and the volume that puts it there. -/
def automount : List String := [
  "# bw_automount: container path under which a host path is mounted",
  "# examples:",
  "#   bw_automount /foo/bar.txt  # " ++ automountRoot ++ "/foo/bar.txt",
  "function bw_automount \x7b",
  "  local abs_path",
  "  abs_path=$(bw_absolute_path \"$1\")",
  "  if [ -d \"$abs_path\" ]; then",
  "    echo \"" ++ automountRoot ++ "$abs_path\"",
  "  else",
  "    local source_dir",
  "    source_dir=$(dirname \"$abs_path\")",
  "    echo \"" ++ automountRoot ++ "$\x7bsource_dir%/\x7d/$(basename \"$abs_path\")\"",
  "  fi",
  "\x7d",
  "",
  "# bw_automount_arg: host:container volume spec for a host path",
  "# examples:",
  "#   bw_automount_arg /foo/bar.txt  # /foo:" ++ automountRoot ++ "/foo",
  "function bw_automount_arg \x7b",
  "  local abs_path source_dir",
  "  abs_path=$(bw_absolute_path \"$1\")",
  "  if [ -d \"$abs_path\" ]; then",
  "    source_dir=\"$abs_path\"",
  "  else",
  "    source_dir=$(dirname \"$abs_path\")",
  "  fi",
  "  echo \"$source_dir:" ++ automountRoot ++ "$source_dir\"",
  "\x7d",
  "",
  "# bw_add_mount: add a volume spec to BW_EXTRA_MOUNTS once",
  "function bw_add_mount \x7b",
  "  local spec=\"$1\"",
  "  local existing",
  "  for existing in \"$\x7bBW_EXTRA_MOUNTS[@]\x7d\"; do",
  "    if [ \"$existing\" = \"$spec\" ]; then",
  "      return 0",
  "    fi",
  "  done",
  "  BW_EXTRA_MOUNTS+=(-v \"$spec\")",
  "\x7d"]

/-- Texts set apart by an empty line. -/
def apart (texts : List String) : String := "\n\n".intercalate texts

/-- The functions of every wrapper. -/
def core : String :=
  apart ([reporting, sourceDir, typeChecks, integerLess, memoryAsBytes].map Text.unlines)

/-- The further functions of a wrapper that starts a container. -/
def container : String := apart ([absolutePath, automount].map Text.unlines)

end Toolwrap.Wrapper.Functions
