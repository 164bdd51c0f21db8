import DistinctCount.Json.Lexer
import DistinctCount.Sketch.Basic

namespace DistinctCount.Json

inductive Enclosing where
  | array
  | object
  deriving DecidableEq, Repr

-- `due` says that a value comes next, not what may follow one. An object that was just
-- opened is past its first colon.
def skipWithin (due : Bool) (outer : List Enclosing) (tokens : List Token) : Option (List Token) :=
  match due,outer,tokens with
  | true,outer,.arrayOpen :: .arrayClose :: rest => skipWithin false outer rest
  | true,outer,.arrayOpen :: rest => skipWithin true (.array :: outer) rest
  | true,outer,.objectOpen :: .objectClose :: rest => skipWithin false outer rest
  | true,outer,.objectOpen :: .string _ :: .colon :: rest => skipWithin true (.object :: outer) rest
  | true,outer,token :: rest =>
    match token with
    | .null | .boolean _ | .natural _ | .number | .string _ => skipWithin false outer rest
    | _ => none
  | true,_,[] => none
  | false,[],rest => some rest
  | false,.array :: outer,.comma :: rest => skipWithin true (.array :: outer) rest
  | false,.array :: outer,.arrayClose :: rest => skipWithin false outer rest
  | false,.object :: outer,.comma :: .string _ :: .colon :: rest => skipWithin true (.object :: outer) rest
  | false,.object :: outer,.objectClose :: rest => skipWithin false outer rest
  | false,_ :: _,_ => none
termination_by tokens.length

def skipValue (tokens : List Token) : Option (List Token) := skipWithin true [] tokens

theorem skipWithin_keeps (accepted : skipWithin due opened tokens = some rest) :
    rest.length ≤ tokens.length := by
  fun_induction skipWithin due opened tokens <;> grind

end DistinctCount.Json

namespace DistinctCount.Config
open Json

-- Settings found in a text. One that is absent keeps its default, and `null` is a
-- setting of its own.
structure Settings where
  precision : Option Nat := none
  sparsePrecision : Option (Option Nat) := none

def Settings.config (found : Settings) : Config :=
  let default : Config := {}
  { precision := found.precision.getD default.precision
    sparsePrecision := found.sparsePrecision.getD default.sparsePrecision }

def small? : List Token → Option (Nat × List Token)
  | .natural n :: rest => if n < 256 then some (n,rest) else none
  | _ => none

def smallOrNull? : List Token → Option (Option Nat × List Token)
  | .null :: rest => some (none,rest)
  | tokens => (small? tokens).map fun (n,rest) => (some n,rest)

def member? (found : Settings) (key : List Char) (tokens : List Token) : Option (Settings × List Token) :=
  if key = "precision".toList then
    if found.precision.isSome then none
    else (small? tokens).map fun (n,rest) => ({ found with precision := some n },rest)
  else if key = "sparse_precision".toList then
    if found.sparsePrecision.isSome then none
    else (smallOrNull? tokens).map fun (n,rest) => ({ found with sparsePrecision := some n },rest)
  else (skipValue tokens).map (found,·)

theorem small_keeps (accepted : small? tokens = some (n,rest)) : rest.length ≤ tokens.length := by
  unfold small? at accepted
  split at accepted
  · split at accepted <;> cases accepted; simp
  · cases accepted

theorem smallOrNull_keeps (accepted : smallOrNull? tokens = some (n,rest)) :
    rest.length ≤ tokens.length := by
  unfold smallOrNull? at accepted
  split at accepted
  · cases accepted; simp
  · obtain ⟨pair,got,eq⟩ := Option.map_eq_some_iff.mp accepted
    have := small_keeps got
    simp at eq
    simp [←eq.2,this]

theorem member_keeps (accepted : member? found key tokens = some (after,rest)) :
    rest.length ≤ tokens.length := by
  unfold member? at accepted
  split at accepted
  · split at accepted
    · cases accepted
    · obtain ⟨pair,got,eq⟩ := Option.map_eq_some_iff.mp accepted
      have := small_keeps got
      simp at eq
      simp [←eq.2,this]
  · split at accepted
    · split at accepted
      · cases accepted
      · obtain ⟨pair,got,eq⟩ := Option.map_eq_some_iff.mp accepted
        have := smallOrNull_keeps got
        simp at eq
        simp [←eq.2,this]
    · obtain ⟨left,got,eq⟩ := Option.map_eq_some_iff.mp accepted
      have := skipWithin_keeps got
      simp at eq
      simp [←eq.2,this]

def members? (found : Settings) (tokens : List Token) : Option Settings :=
  match tokens with
  | .string (some key) :: .colon :: rest =>
    match read : member? found key rest with
    | none => none
    | some (found,left) =>
      have := member_keeps read
      match _ : left with
      | [.objectClose] => some found
      | .comma :: others => members? found others
      | _ => none
  | _ => none
termination_by tokens.length
decreasing_by subst left; simp only [List.length_cons] at *; omega

def settings? : List Token → Option Settings
  | [.objectOpen,.objectClose] => some {}
  | .objectOpen :: rest => members? {} rest
  | [.arrayOpen,.arrayClose] => some {}
  | .arrayOpen :: rest => do
    let (n,rest) ← small? rest
    match rest with
    | [.arrayClose] => some { precision := some n }
    | .comma :: rest =>
      match ← smallOrNull? rest with
      | (sparse,[.arrayClose]) => some { precision := some n, sparsePrecision := some sparse }
      | _ => none
    | _ => none
  | _ => none

def readJson? (text : String) : Option Config := (tokens? text).bind settings? |>.map Settings.config

def writeJson (c : Config) : String :=
  let precision := c.precision
  let sparse := (c.sparsePrecision.map Nat.repr).getD "null"
  s!"\x7b\"precision\":{precision},\"sparse_precision\":{sparse}\x7d"

end DistinctCount.Config
