import DistinctCount.Json.Lexer
import DistinctCount.Sketch.Stored

namespace DistinctCount.Json
open Wire

def writeBytes (bytes : Bytes) : String :=
  "[" ++ ",".intercalate (bytes.map fun byte => byte.toNat.repr) ++ "]"

def bytesOnto (found : Bytes) (input : List Char) : Option (Bytes × List Char) :=
  match readNumber : token? input with
  | some (.natural n,rest) =>
    have := token_shortens readNumber
    if n < 256 then
      match readComma : token? rest with
      | some (.comma,left) =>
        have := token_shortens readComma
        bytesOnto (UInt8.ofNat n :: found) left
      | some (.arrayClose,left) => some ((UInt8.ofNat n :: found).reverse,left)
      | _ => none
    else none
  | _ => none
termination_by input.length
decreasing_by omega

-- The bytes of the array that a text starts with, and the text behind it, which is
-- not looked at and may be anything.
def readBytes? (input : List Char) : Option (Bytes × List Char) :=
  match token? input with
  | some (.arrayOpen,rest) =>
    match token? rest with
    | some (.arrayClose,left) => some ([],left)
    | _ => bytesOnto [] rest
  | _ => none

variable {later : List Token} {input rest : List Char} {bytes : Bytes}

def elements (bytes : Bytes) : List Token :=
  (bytes.map fun byte => Token.natural byte.toNat).intersperse .comma ++ [.arrayClose]

def arrayTokens (bytes : Bytes) : List Token := .arrayOpen :: elements bytes

theorem elements_more (byte next : UInt8) (others : Bytes) :
    elements (byte :: next :: others) = .natural byte.toNat :: .comma :: elements (next :: others) := by
  simp [elements]

theorem elements_first (given : bytes ≠ []) : ∃ n later, elements bytes = .natural n :: later := by
  obtain ⟨byte,others,rfl⟩ := List.exists_cons_of_ne_nil given
  cases others <;> exact ⟨_,_,rfl⟩

theorem bytesOnto_step (found : Bytes) (input : List Char) : bytesOnto found input =
    match token? input with
    | some (.natural n,rest) =>
      if n < 256 then
        match token? rest with
        | some (.comma,left) => bytesOnto (UInt8.ofNat n :: found) left
        | some (.arrayClose,left) => some ((UInt8.ofNat n :: found).reverse,left)
        | _ => none
      else none
    | _ => none := by
  rw [bytesOnto]
  split
  · rename_i n rest number
    simp only [number]
    congr 1
    split
    · rename_i comma; simp only [comma]
    · rename_i close; simp only [close]
    · rename_i notComma notClose
      split
      · rename_i comma; exact (notComma _ comma).elim
      · rename_i close; exact (notClose _ close).elim
      · rfl
  · rename_i other
    split
    · rename_i number; exact absurd number (other _ _)
    · rfl

theorem bytesOnto_elements (found : Bytes) (given : bytes ≠ [])
    (lexed : tokensOnto [] input = some (elements bytes ++ later)) :
    ∃ rest, bytesOnto found input = some (found.reverse ++ bytes,rest) ∧ tokensOnto [] rest = some later := by
  induction bytes generalizing found input with
  | nil => exact absurd rfl given
  | cons byte others ih =>
    cases others with
    | nil =>
      obtain ⟨rest,number,lexed⟩ := tokens_cons.mp lexed
      obtain ⟨left,close,lexed⟩ := tokens_cons.mp lexed
      refine ⟨left,?_,lexed⟩
      rw [bytesOnto_step,number]
      dsimp only
      rw [if_pos byte.toNat_lt,close,UInt8.ofNat_toNat,List.reverse_cons]
    | cons next others =>
      rw [elements_more] at lexed
      obtain ⟨rest,number,lexed⟩ := tokens_cons.mp lexed
      obtain ⟨left,comma,lexed⟩ := tokens_cons.mp lexed
      obtain ⟨behind,read,lexed⟩ := ih (byte :: found) (List.cons_ne_nil _ _) lexed
      refine ⟨behind,?_,lexed⟩
      rw [bytesOnto_step,number]
      dsimp only
      rw [if_pos byte.toNat_lt,comma]
      dsimp only
      rw [UInt8.ofNat_toNat,read,List.reverse_cons,List.append_assoc]
      rfl

theorem bytesOnto_accepted {found : Bytes} (read : bytesOnto found input = some (bytes,rest)) :
    ∃ more, more ≠ [] ∧ bytes = found.reverse ++ more ∧
      tokensOnto [] input = (tokensOnto [] rest).map (elements more ++ ·) := by
  induction size : input.length using Nat.strongRecOn generalizing found input with
  | ind n ih =>
    rw [bytesOnto_step] at read
    split at read
    · rename_i value behind number
      split at read
      · rename_i small
        have byte : (UInt8.ofNat value).toNat = value := byte_of_nat small
        split at read
        · rename_i left comma
          have shorter : left.length < n :=
            size ▸ Nat.lt_trans (token_shortens comma) (token_shortens number)
          obtain ⟨more,given,rfl,lexed⟩ := ih _ shorter read rfl
          obtain ⟨next,others,rfl⟩ := List.exists_cons_of_ne_nil given
          refine ⟨UInt8.ofNat value :: next :: others,List.cons_ne_nil _ _,by simp,?_⟩
          rw [tokens_token number,tokens_token comma,lexed,elements_more,byte]
          simp [Function.comp_def]
        · rename_i left close
          cases read
          refine ⟨[UInt8.ofNat value],List.cons_ne_nil _ _,List.reverse_cons,?_⟩
          rw [tokens_token number,tokens_token close]
          simp [elements,byte,Function.comp_def]
        · cases read
      · cases read
    · cases read

theorem readBytes_exact (input : List Char) (bytes : Bytes) :
    (∃ rest, readBytes? input = some (bytes,rest) ∧ rest.all isBlank = true) ↔
      tokensOnto [] input = some (arrayTokens bytes) := by
  constructor
  · rintro ⟨rest,read,blank⟩
    have none := tokens_nil.mpr blank
    rw [readBytes?] at read
    split at read
    · rename_i behind opened
      refine tokens_cons.mpr ⟨behind,opened,?_⟩
      split at read
      · rename_i left close
        cases read
        exact tokens_cons.mpr ⟨rest,close,none⟩
      · obtain ⟨more,_,rfl,lexed⟩ := bytesOnto_accepted read
        rw [lexed,none]
        simp
    · cases read
  · intro lexed
    obtain ⟨rest,opened,lexed⟩ := tokens_cons.mp lexed
    rw [readBytes?,opened]
    dsimp only
    by_cases none : bytes = []
    · subst none
      obtain ⟨left,close,blank⟩ := tokens_cons.mp lexed
      exact ⟨left,by rw [close],tokens_nil.mp blank⟩
    · obtain ⟨left,read,blank⟩ := bytesOnto_elements [] none (by rwa [List.append_nil])
      refine ⟨left,?_,tokens_nil.mp blank⟩
      obtain ⟨first,others,same⟩ := elements_first none
      rw [same] at lexed
      obtain ⟨_,number,_⟩ := tokens_cons.mp lexed
      rw [number]
      exact read

theorem tokens_elements (bytes : Bytes) :
    tokensOnto [] (",".toList.intercalate (bytes.map fun byte => byte.toNat.repr.toList) ++ [']']) =
      some (elements bytes) := by
  have close : tokensOnto [] [']'] = some [.arrayClose] := tokens_cons.mpr ⟨[],rfl,tokens_blank rfl⟩
  induction bytes with
  | nil => exact close
  | cons byte others ih =>
    cases others with
    | nil =>
      simp only [List.map_cons,List.map_nil,List.intercalate_singleton]
      exact tokens_cons.mpr ⟨_,token_repr _ (.inr rfl) [],close⟩
    | cons next others =>
      rw [List.map_cons,List.map_cons,List.intercalate_cons_cons,elements_more,List.append_assoc,List.append_assoc]
      exact tokens_cons.mpr ⟨_,token_repr _ (.inl rfl) _,tokens_cons.mpr ⟨_,rfl,ih⟩⟩

theorem tokens_writeBytes (bytes : Bytes) : tokens? (writeBytes bytes) = some (arrayTokens bytes) := by
  have text : (writeBytes bytes).toList =
      '[' :: (",".toList.intercalate (bytes.map fun byte => byte.toNat.repr.toList) ++ [']']) := by
    rw [writeBytes,String.toList_append,String.toList_append,String.toList_intercalate,List.map_map]
    rfl
  rw [tokens?,text]
  exact tokens_cons.mpr ⟨_,rfl,tokens_elements bytes⟩

end DistinctCount.Json

namespace DistinctCount.Sketch

inductive JsonFailure where
  | shape
  | refused (failure : Failure)

def toJson (s : Sketch) : String := Json.writeBytes s.toBytes

-- The sketch is restored as soon as the array is closed, and only then is the rest
-- of the text looked at. So refused bytes are reported whatever follows them, and a
-- text that goes on behind its array is refused after the restoration was told.
def ofJson (text : String) : Logged (Except JsonFailure Sketch) :=
  match Json.readBytes? text.toList with
  | none => pure (.error .shape)
  | some (bytes,rest) =>
    match ofBytes bytes with
    | .error failure => pure (.error (.refused failure))
    | .ok restored => do
      let s ← restored
      return if rest.all Json.isBlank then .ok s else .error .shape

end DistinctCount.Sketch
