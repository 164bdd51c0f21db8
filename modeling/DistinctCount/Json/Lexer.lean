namespace DistinctCount.Json

-- The words of a JSON text. Strings are decoded; one with half of a surrogate pair
-- has no text but is still a string. Numbers other than plain natural ones are not
-- told apart.
inductive Token where
  | arrayOpen
  | arrayClose
  | objectOpen
  | objectClose
  | comma
  | colon
  | null
  | boolean (value : Bool)
  | natural (value : Nat)
  | number
  | string (text : Option (List Char))
  deriving DecidableEq, Repr

def hexDigit? (c : Char) : Option Nat :=
  if '0' ≤ c ∧ c ≤ '9' then some (c.toNat - '0'.toNat)
  else if 'a' ≤ c ∧ c ≤ 'f' then some (c.toNat - 'a'.toNat + 10)
  else if 'A' ≤ c ∧ c ≤ 'F' then some (c.toNat - 'A'.toNat + 10)
  else none

def unit? (a b c d : Char) : Option Nat := do
  let w ← hexDigit? a
  let x ← hexDigit? b
  let y ← hexDigit? c
  let z ← hexDigit? d
  pure (((w * 16 + x) * 16 + y) * 16 + z)

def isHighSurrogate (unit : Nat) : Bool := 0xd800 ≤ unit && unit < 0xdc00
def isLowSurrogate (unit : Nat) : Bool := 0xdc00 ≤ unit && unit < 0xe000

def fromPair (high low : Nat) : Char := Char.ofNat (0x10000 + (high - 0xd800) * 0x400 + (low - 0xdc00))

def escaped? : Char → Option Char
  | '"' => some '"'
  | '\\' => some '\\'
  | '/' => some '/'
  | 'b' => some '\x08'
  | 'f' => some '\x0c'
  | 'n' => some '\n'
  | 'r' => some '\r'
  | 't' => some '\t'
  | _ => none

def push (text : Option (List Char)) (c : Char) : Option (List Char) := text.map (c :: ·)

def readString (text : Option (List Char)) : List Char → Option (Option (List Char) × List Char)
  | [] => none
  | '"' :: rest => some (text.map List.reverse,rest)
  | '\\' :: 'u' :: a :: b :: c :: d :: rest =>
    match unit? a b c d with
    | none => none
    | some unit =>
      if isLowSurrogate unit then readString none rest
      else if isHighSurrogate unit then
        match rest with
        | '\\' :: 'u' :: e :: f :: g :: h :: left =>
          match unit? e f g h with
          | none => none
          | some low =>
            if isLowSurrogate low then readString (push text (fromPair unit low)) left
            else readString none ('\\' :: 'u' :: e :: f :: g :: h :: left)
        | rest => readString none rest
      else readString (push text (Char.ofNat unit)) rest
  | '\\' :: letter :: rest =>
    match escaped? letter with
    | none => none
    | some c => readString (push text c) rest
  | c :: rest => if c.toNat < 0x20 then none else readString (push text c) rest
termination_by input => input.length

theorem readString_shortens (accepted : readString text input = some (result,rest)) :
    rest.length < input.length := by
  fun_induction readString text input <;> simp_all <;> omega

def isDigit (c : Char) : Bool := '0' ≤ c && c ≤ '9'

def valueOf (digits : List Char) : Nat := digits.foldl (fun n c => n * 10 + (c.toNat - '0'.toNat)) 0

def digits? (input : List Char) : Option (List Char × List Char) :=
  match input.takeWhile isDigit with
  | [] => none
  | digits => some (digits,input.dropWhile isDigit)

def whole? : List Char → Option (List Char × List Char)
  | '0' :: rest => some (['0'],rest)
  | input => digits? input

def fraction? : List Char → Option (Bool × List Char)
  | '.' :: rest => (digits? rest).map fun (_,left) => (true,left)
  | input => some (false,input)

def exponent? : List Char → Option (Bool × List Char)
  | 'e' :: rest | 'E' :: rest =>
    let unsigned := match rest with
      | '+' :: left | '-' :: left => left
      | _ => rest
    (digits? unsigned).map fun (_,left) => (true,left)
  | input => some (false,input)

def unsigned? (input : List Char) : Option (Token × List Char) := do
  let (digits,rest) ← whole? input
  let (fractional,rest) ← fraction? rest
  let (scaled,rest) ← exponent? rest
  pure (if fractional || scaled then .number else .natural (valueOf digits),rest)

def number? : List Char → Option (Token × List Char)
  | '-' :: rest => (unsigned? rest).map fun (_,left) => (.number,left)
  | input => unsigned? input

def isBlank (c : Char) : Bool := c = ' ' || c = '\n' || c = '\t' || c = '\r'

-- Cuts a text into tokens. Two values without anything between them are cut like
-- any others; it is the readers of tokens that accept no such sequence.

theorem digits_shortens (accepted : digits? input = some (found,rest)) :
    rest.length < input.length := by
  unfold digits? at accepted
  split at accepted
  · cases accepted
  · rename_i found
    cases accepted
    have parts := congrArg List.length (List.takeWhile_append_dropWhile (p := isDigit) (l := input))
    have := List.length_pos_iff.mpr found
    simp only [List.length_append] at parts
    omega

theorem whole_shortens (accepted : whole? input = some (found,rest)) :
    rest.length < input.length := by
  unfold whole? at accepted
  split at accepted
  · cases accepted; simp
  · exact digits_shortens accepted

theorem fraction_keeps (accepted : fraction? input = some (found,rest)) :
    rest.length ≤ input.length := by
  unfold fraction? at accepted
  split at accepted
  · obtain ⟨pair,got,eq⟩ := Option.map_eq_some_iff.mp accepted
    have := digits_shortens got
    simp at eq
    simp [←eq.2]; omega
  · cases accepted; exact Nat.le_refl _

theorem exponent_keeps (accepted : exponent? input = some (found,rest)) :
    rest.length ≤ input.length := by
  unfold exponent? at accepted
  split at accepted
  · obtain ⟨pair,got,eq⟩ := Option.map_eq_some_iff.mp accepted
    have := digits_shortens got
    simp at eq
    split at this <;> simp_all <;> omega
  · obtain ⟨pair,got,eq⟩ := Option.map_eq_some_iff.mp accepted
    have := digits_shortens got
    simp at eq
    split at this <;> simp_all <;> omega
  · cases accepted; exact Nat.le_refl _

theorem unsigned_shortens (accepted : unsigned? input = some (token,rest)) :
    rest.length < input.length := by
  simp only [unsigned?,bind,Option.bind_eq_some_iff,pure] at accepted
  obtain ⟨whole,gotWhole,fraction,gotFraction,exponent,gotExponent,eq⟩ := accepted
  have := whole_shortens gotWhole
  have := fraction_keeps gotFraction
  have := exponent_keeps gotExponent
  simp at eq
  simp [←eq.2]; omega

theorem number_shortens (accepted : number? input = some (token,rest)) :
    rest.length < input.length := by
  unfold number? at accepted
  split at accepted
  · obtain ⟨pair,got,eq⟩ := Option.map_eq_some_iff.mp accepted
    have := unsigned_shortens got
    simp at eq
    simp [←eq.2]; omega
  · exact unsigned_shortens accepted

def next? : List Char → Option (Token × List Char)
  | '[' :: rest => some (.arrayOpen,rest)
  | ']' :: rest => some (.arrayClose,rest)
  | '{' :: rest => some (.objectOpen,rest)
  | '}' :: rest => some (.objectClose,rest)
  | ',' :: rest => some (.comma,rest)
  | ':' :: rest => some (.colon,rest)
  | 'n' :: 'u' :: 'l' :: 'l' :: rest => some (.null,rest)
  | 't' :: 'r' :: 'u' :: 'e' :: rest => some (.boolean true,rest)
  | 'f' :: 'a' :: 'l' :: 's' :: 'e' :: rest => some (.boolean false,rest)
  | '"' :: rest => (readString (some []) rest).map fun (text,left) => (.string text,left)
  | input => number? input

theorem next_shortens (accepted : next? input = some (token,rest)) : rest.length < input.length := by
  unfold next? at accepted
  split at accepted
  case h_10 tail =>
    obtain ⟨pair,got,eq⟩ := Option.map_eq_some_iff.mp accepted
    have := readString_shortens got
    simp at eq
    simp [←eq.2]; omega
  case h_11 => exact number_shortens accepted
  all_goals cases accepted; simp; try omega

def token? (input : List Char) : Option (Token × List Char) := next? (input.dropWhile isBlank)

theorem token_shortens (accepted : token? input = some (token,rest)) : rest.length < input.length :=
  Nat.lt_of_lt_of_le (next_shortens accepted) (List.dropWhile_sublist isBlank).length_le

def tokensOnto (found : List Token) (input : List Char) : Option (List Token) :=
  match input with
  | [] => some found.reverse
  | c :: rest =>
    if isBlank c then tokensOnto found rest
    else
      match read : next? (c :: rest) with
      | none => none
      | some (token,left) =>
        have := next_shortens read
        tokensOnto (token :: found) left
termination_by input.length
decreasing_by all_goals simp only [List.length_cons] at *; omega

def tokens? (text : String) : Option (List Token) := tokensOnto [] text.toList

variable {later : List Token} {token : Token} {input rest : List Char} {c : Char} {n : Nat}

theorem token_blank (blank : isBlank c = true) (rest : List Char) : token? (c :: rest) = token? rest := by
  rw [token?,token?,List.dropWhile_cons_of_pos blank]

theorem token_visible (seen : ¬isBlank c = true) (rest : List Char) : token? (c :: rest) = next? (c :: rest) := by
  rw [token?,List.dropWhile_cons_of_neg seen]

theorem tokensOnto_step (found : List Token) (input : List Char) : tokensOnto found input =
    match token? input with
    | some (token,rest) => tokensOnto (token :: found) rest
    | none => if input.all isBlank then some found.reverse else none := by
  induction input with
  | nil => rw [tokensOnto]; rfl
  | cons c rest ih =>
    rw [tokensOnto]
    by_cases blank : isBlank c = true
    · rw [if_pos blank,ih,token_blank blank,List.all_cons,blank,Bool.true_and]
    · rw [if_neg blank,token_visible blank]
      split
      · rename_i none
        simp [none,blank]
      · rename_i some
        simp [some]

theorem tokensOnto_found (found : List Token) (input : List Char) :
    tokensOnto found input = (tokensOnto [] input).map (found.reverse ++ ·) := by
  induction size : input.length using Nat.strongRecOn generalizing found input with
  | ind n ih =>
    rw [tokensOnto_step found,tokensOnto_step []]
    cases read : token? input with
    | none =>
      dsimp only
      split <;> simp
    | some pair =>
      obtain ⟨token,rest⟩ := pair
      have shorter := size ▸ token_shortens read
      dsimp only
      rw [ih _ shorter (token :: found) rest rfl,ih _ shorter [token] rest rfl,Option.map_map]
      simp [Function.comp_def]

theorem tokens_blank (blank : input.all isBlank = true) : tokensOnto [] input = some [] := by
  induction input with
  | nil => rw [tokensOnto]; rfl
  | cons c rest ih =>
    simp only [List.all_cons,Bool.and_eq_true] at blank
    rw [tokensOnto,if_pos blank.1]
    exact ih blank.2

theorem tokens_nil : tokensOnto [] input = some [] ↔ input.all isBlank = true := by
  refine ⟨fun none => ?_,tokens_blank⟩
  rw [tokensOnto_step] at none
  split at none
  · rw [tokensOnto_found] at none
    simp at none
  · split at none
    · assumption
    · cases none

theorem tokens_token (read : token? input = some (token,rest)) :
    tokensOnto [] input = (tokensOnto [] rest).map (token :: ·) := by
  rw [tokensOnto_step,read]
  exact tokensOnto_found [token] rest

theorem tokens_cons : tokensOnto [] input = some (token :: later) ↔
    ∃ rest, token? input = some (token,rest) ∧ tokensOnto [] rest = some later := by
  constructor
  · intro whole
    cases read : token? input with
    | none =>
      rw [tokensOnto_step,read] at whole
      dsimp only at whole
      split at whole <;> cases whole
    | some pair =>
      obtain ⟨first,rest⟩ := pair
      rw [tokens_token read] at whole
      obtain ⟨others,behind,same⟩ := Option.map_eq_some_iff.mp whole
      cases same
      exact ⟨rest,rfl,behind⟩
  · rintro ⟨rest,read,behind⟩
    rw [tokens_token read,behind]
    rfl

theorem repr_digits (n : Nat) : ∀ c ∈ n.repr.toList, isDigit c = true := by
  intro c member
  rw [Nat.toList_repr] at member
  exact Nat.isDigit_of_mem_toDigits (by decide) (by decide) member

theorem valueOf_repr (n : Nat) : valueOf n.repr.toList = n := by
  have value := Nat.ofDigitChars_ten_toDigits (n := n)
  rw [Nat.ofDigitChars_eq_foldl] at value
  rw [valueOf,Nat.toList_repr]
  simpa only [Nat.mul_comm] using value

theorem repr_first (n : Nat) : ∃ first others, n.repr.toList = first :: others ∧ (n ≠ 0 → first ≠ '0') := by
  induction n using Nat.strongRecOn with
  | ind n ih =>
    rw [Nat.toList_repr]
    by_cases small : n < 10
    · refine ⟨_,_,Nat.toDigits_of_lt_base small,?_⟩
      simp
    · obtain ⟨first,others,same,leading⟩ := ih (n / 10) (by omega)
      rw [Nat.toList_repr] at same
      rw [Nat.toDigits_of_base_le (by decide) (by omega),same]
      exact ⟨first,_,List.cons_append,fun _ => leading (by omega)⟩

theorem digits_repr (n : Nat) (stop : isDigit c = false) (rest : List Char) :
    digits? (n.repr.toList ++ c :: rest) = some (n.repr.toList,c :: rest) := by
  have all := repr_digits n
  have taken : (n.repr.toList ++ c :: rest).takeWhile isDigit = n.repr.toList := by
    rw [List.takeWhile_append_of_pos all,List.takeWhile_cons_of_neg (by simp [stop]),List.append_nil]
  have dropped : (n.repr.toList ++ c :: rest).dropWhile isDigit = c :: rest := by
    rw [List.dropWhile_append_of_pos all,List.dropWhile_cons_of_neg (by simp [stop])]
  obtain ⟨first,others,same,_⟩ := repr_first n
  rw [digits?,taken,dropped,same]

theorem whole_repr (n : Nat) (stop : isDigit c = false) (rest : List Char) :
    whole? (n.repr.toList ++ c :: rest) = some (n.repr.toList,c :: rest) := by
  by_cases zero : n = 0
  · subst zero
    rfl
  · have digits := digits_repr n stop rest
    obtain ⟨first,others,same,leading⟩ := repr_first n
    unfold whole?
    split
    · rename_i zeros
      rw [same,List.cons_append] at zeros
      exact absurd (List.cons.inj zeros).1 (leading zero)
    · exact digits

theorem unsigned_repr (n : Nat) (stop : c = ',' ∨ c = ']') (rest : List Char) :
    unsigned? (n.repr.toList ++ c :: rest) = some (.natural n,c :: rest) := by
  rcases stop with rfl | rfl
  all_goals
    rw [unsigned?,whole_repr n (by decide)]
    exact congrArg (fun value => some (Token.natural value,_ :: rest)) (valueOf_repr n)

theorem next_digit (digit : isDigit c = true) (rest : List Char) : next? (c :: rest) = unsigned? (c :: rest) := by
  unfold next?
  split
  case h_11 =>
    unfold number?
    split
    · rename_i same
      cases same
      exact absurd digit (by decide)
    · rfl
  all_goals
    rename_i same
    cases same
    exact absurd digit (by decide)

theorem digit_visible (digit : isDigit c = true) : ¬isBlank c = true := by
  intro blank
  simp only [isBlank,Bool.or_eq_true,decide_eq_true_eq] at blank
  rcases blank with ((rfl | rfl) | rfl) | rfl <;> exact absurd digit (by decide)

theorem token_repr (n : Nat) (stop : c = ',' ∨ c = ']') (rest : List Char) :
    token? (n.repr.toList ++ c :: rest) = some (.natural n,c :: rest) := by
  obtain ⟨first,others,same,_⟩ := repr_first n
  have digit : isDigit first = true := repr_digits n first (same ▸ List.mem_cons_self)
  have number := unsigned_repr n stop rest
  rw [same,List.cons_append] at number ⊢
  rw [token_visible (digit_visible digit),next_digit digit]
  exact number

end DistinctCount.Json
