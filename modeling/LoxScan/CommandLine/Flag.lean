/-!
# Flags of the command line

## Main Definitions

* `Flag` — what can be asked for
* `Flag.names` — the words that ask for it
* `isOneLetterName` — the short ones among these words
* `flagNames` — all of these words, in the order in which they are listed to a user
-/

namespace LoxScan

/-- What can be asked for on the command line. -/
inductive Flag where
  | help
  | json
  | verbose
  | version
deriving DecidableEq, Repr

namespace Flag

/-- All flags. -/
def all : List Flag := [help, json, verbose, version]

/-- The words that ask for a flag. -/
def names : Flag → List String
  | help => ["-h", "--help"]
  | json => ["--json"]
  | verbose => ["-v", "--verbose"]
  | version => ["--version"]

/-- How a flag is named to a user. -/
def title (flag : Flag) : String := "/".intercalate flag.names

end Flag

/-- A name with one dash, which is followed by one letter. -/
def isOneLetterName (name : List Char) : Bool := name[1]? ≠ some '-'

/-- All words that ask for a flag. -/
def flagNames : List (String × Flag) :=
  Flag.all.flatMap fun flag => flag.names.map fun name => (name, flag)

end LoxScan
