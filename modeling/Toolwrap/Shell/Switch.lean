/-!
What can be turned on and off in a shell, by name. Some switches have a letter, under which `set` knows
them; the others belong to `shopt`.
-/
namespace Toolwrap.Shell

structure Switch where
  name : String
deriving DecidableEq, Repr

namespace Switch

/-- A command that fails ends the program. -/
def errexit : Switch := ⟨"errexit"⟩

/-- A variable without a value ends the program. -/
def nounset : Switch := ⟨"nounset"⟩

/-- A pipe fails when a command before its last one does. -/
def pipefail : Switch := ⟨"pipefail"⟩

/-- Patterns are not matched against names of files. -/
def noglob : Switch := ⟨"noglob"⟩

/-- `>` does not empty a file that is there. -/
def noclobber : Switch := ⟨"noclobber"⟩

/-- Commands are shown before they are run. -/
def xtrace : Switch := ⟨"xtrace"⟩

/-- Commands are read but not run. -/
def noexec : Switch := ⟨"noexec"⟩

/-- Every variable that is given a value is exported. -/
def allexport : Switch := ⟨"allexport"⟩

/-- Functions and subshells take over what is run for an error. -/
def errtrace : Switch := ⟨"errtrace"⟩

/-- Functions and subshells take over what is run for commands and returns. -/
def functrace : Switch := ⟨"functrace"⟩

/-- Words with braces stand for several words. -/
def braceexpand : Switch := ⟨"braceexpand"⟩

/-- A pattern without matches is nothing. -/
def nullglob : Switch := ⟨"nullglob"⟩

/-- A pattern without matches is an error. -/
def failglob : Switch := ⟨"failglob"⟩

/-- Patterns may hold groups. -/
def extglob : Switch := ⟨"extglob"⟩

/-- Patterns match names that begin with a dot. -/
def dotglob : Switch := ⟨"dotglob"⟩

/-- Patterns match names of files in either case. -/
def nocaseglob : Switch := ⟨"nocaseglob"⟩

/-- Patterns match texts in either case. -/
def nocasematch : Switch := ⟨"nocasematch"⟩

/-- Two stars stand for any number of directories. -/
def globstar : Switch := ⟨"globstar"⟩

/-- The last command of a pipe is run in the shell itself. -/
def lastpipe : Switch := ⟨"lastpipe"⟩

/-- Substituted commands end where a command fails. -/
def inheritErrexit : Switch := ⟨"inherit_errexit"⟩

/-- An ampersand in the text that replaces a match stands for the match. -/
def patsubReplacement : Switch := ⟨"patsub_replacement"⟩

/-- `echo` reads escapes. -/
def xpgEcho : Switch := ⟨"xpg_echo"⟩

/-- The name of a command may be an alias. -/
def expandAliases : Switch := ⟨"expand_aliases"⟩

/-- The switches of `set`, each with its letter, if it has one. -/
def options : List (String × Option Char) :=
  [("allexport", 'a'), ("braceexpand", 'B'), ("emacs", none), ("errexit", 'e'), ("errtrace", 'E'),
   ("functrace", 'T'), ("hashall", 'h'), ("histexpand", 'H'), ("history", none), ("ignoreeof", none),
   ("interactive-comments", none), ("keyword", 'k'), ("monitor", 'm'), ("noclobber", 'C'),
   ("noexec", 'n'), ("noglob", 'f'), ("nolog", none), ("notify", 'b'), ("nounset", 'u'),
   ("onecmd", 't'), ("physical", 'P'), ("pipefail", none), ("posix", none), ("privileged", 'p'),
   ("verbose", 'v'), ("vi", none), ("xtrace", 'x')]

/-- The switches of `shopt`. -/
def extras : List String :=
  ["autocd", "assoc_expand_once", "cdable_vars", "cdspell", "checkhash", "checkjobs", "checkwinsize",
   "cmdhist", "compat31", "compat32", "compat40", "compat41", "compat42", "compat43", "compat44",
   "complete_fullquote", "direxpand", "dirspell", "dotglob", "execfail", "expand_aliases", "extdebug",
   "extglob", "extquote", "failglob", "force_fignore", "globasciiranges", "globskipdots", "globstar",
   "gnu_errfmt", "histappend", "histreedit", "histverify", "hostcomplete", "huponexit",
   "inherit_errexit", "interactive_comments", "lastpipe", "lithist", "localvar_inherit",
   "localvar_unset", "login_shell", "mailwarn", "no_empty_cmd_completion", "nocaseglob",
   "nocasematch", "noexpand_translation", "nullglob", "patsub_replacement", "progcomp",
   "progcomp_alias", "promptvars", "restricted_shell", "shift_verbose", "sourcepath",
   "varredir_close", "xpg_echo"]

/-- What is on when a shell starts. -/
def initial : List Switch :=
  (["braceexpand", "hashall", "interactive-comments", "checkwinsize", "cmdhist", "complete_fullquote",
    "extquote", "force_fignore", "globasciiranges", "globskipdots", "hostcomplete",
    "interactive_comments", "patsub_replacement", "progcomp", "promptvars", "sourcepath"]).map (⟨·⟩)

/-- The order in which letters are listed. -/
def letters : List Char := "abefhkmnptuvxBCEHPT".toList

def ofLetter? (c : Char) : Option Switch :=
  (options.find? fun o => o.2 == some c).map fun o => ⟨o.1⟩

def ofOption? (name : String) : Option Switch :=
  (options.find? fun o => o.1 == name).map fun o => ⟨o.1⟩

def ofExtra? (name : String) : Option Switch := if extras.contains name then some ⟨name⟩ else none

end Switch

end Toolwrap.Shell
