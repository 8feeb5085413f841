import TexMend.Text.Search

/-!
# Placeholders in settings files

`${NAME}` stands for a variable of the environment. All names must be known before anything is put in, and
what is put in is not looked at again.
-/

namespace TexMend.Settings

/-- A piece of a settings file. -/
inductive Fragment where
  | char (c : Char)
  | placeholder (name : Text)
  deriving DecidableEq, Repr

/-- The placeholder at the start of a text: its name and the length of the whole. -/
def placeholderAt? (text : Text) : Option (Text × Nat) :=
  match Text.after? "$\x7b" text with
  | none => none
  | some rest =>
    match Text.cutAt? '}' rest with
    | some (name, _) => if name.isEmpty then none else some (name, name.length + 3)
    | none => none

/-- The pieces of a text; the first `skip` characters belong to a placeholder that is already read. -/
def fragmentsFrom : (skip : Nat) → Text → List Fragment
  | _, [] => []
  | skip + 1, _ :: cs => fragmentsFrom skip cs
  | 0, c :: cs =>
    match placeholderAt? (c :: cs) with
    | some (name, length) => .placeholder name :: fragmentsFrom (length - 1) cs
    | none => .char c :: fragmentsFrom 0 cs

/-- The pieces of a text. -/
def fragments (text : Text) : List Fragment :=
  fragmentsFrom 0 text

/-- The names of all placeholders, in order. -/
def placeholderNames (pieces : List Fragment) : List Text :=
  pieces.filterMap fun
    | .char _ => none
    | .placeholder name => some name

/-- Each name once, at its first place. -/
def firstOccurrences : List Text → List Text
  | [] => []
  | name :: rest => name :: (firstOccurrences rest).filter fun other => !(other = name)

/-- Some variables are not set. -/
structure UnsetError where
  /-- Their names, each once, in order of appearance. -/
  names : List Text

/-- The wording for the user. -/
def UnsetError.message (e : UnsetError) : Text :=
  "Environment variable " ++ Text.joinWith ", " e.names ++ " not found"

/-- The text of a piece. -/
def Fragment.expand (env : List (Text × Text)) : Fragment → Text
  | .char c => [c]
  | .placeholder name => (env.lookup name).getD []

/-- Put the variables in. -/
def substitute (env : List (Text × Text)) (text : Text) : Except UnsetError Text :=
  let pieces := fragments text
  match (placeholderNames pieces).filter fun name => (env.lookup name).isNone with
  | [] => .ok (pieces.flatMap (Fragment.expand env))
  | missing => .error ⟨firstOccurrences missing⟩

end TexMend.Settings
