import DistinctCount.Proofs.Varint
import DistinctCount.Wire.Message

-- What one field takes from a text. A read that succeeds stops behind the bytes it used
-- and does not depend on what follows them, with one exception: a group that has no end
-- tag takes everything up to the end of the text.

namespace DistinctCount.Wire
variable {ε ε' α β : Type}

def Local (read : Bytes → Except ε (α × Bytes)) : Prop :=
  ∀ input value rest, read input = .ok (value,rest) →
    ∃ piece, input = piece ++ rest ∧ ∀ more, read (piece ++ more) = .ok (value,more)

def Passing (skip : Bytes → Except ε Bytes) : Prop :=
  ∀ input rest, skip input = .ok rest →
    ∃ piece, input = piece ++ rest ∧ ∀ more, skip (piece ++ more) = .ok more

section Readers
variable {read : Bytes → Except ε (α × Bytes)} {skip : Bytes → Except ε Bytes} {next : α → Bytes → Except ε' (β × Bytes)}
  {whole : Bytes → Except ε' (β × Bytes)} {value : α} {input rest text : Bytes}

theorem Local.piece (reads : Local read) (accepted : read input = .ok (value,rest)) :
    ∃ piece, input = piece ++ rest ∧ read piece = .ok (value,[]) := by
  obtain ⟨piece,same,again⟩ := reads _ _ _ accepted
  refine ⟨piece,same,?_⟩
  have alone := again []
  rwa [List.append_nil] at alone

theorem Local.onward (reads : Local read) (accepted : read text = .ok (value,[])) (more : Bytes) :
    read (text ++ more) = .ok (value,more) := by
  obtain ⟨piece,rfl,again⟩ := reads _ _ _ accepted
  rw [List.append_nil]
  exact again more

theorem Passing.piece (skips : Passing skip) (accepted : skip input = .ok rest) :
    ∃ piece, input = piece ++ rest ∧ skip piece = .ok [] := by
  obtain ⟨piece,same,again⟩ := skips _ _ accepted
  refine ⟨piece,same,?_⟩
  have alone := again []
  rwa [List.append_nil] at alone

theorem Passing.onward (skips : Passing skip) (accepted : skip text = .ok []) (more : Bytes) :
    skip (text ++ more) = .ok more := by
  obtain ⟨piece,rfl,again⟩ := skips _ _ accepted
  rw [List.append_nil]
  exact again more

theorem Local.passing (reads : Local read) : Passing fun input => (read input).map Prod.snd := by
  intro input rest accepted
  obtain ⟨⟨value,left⟩,got,rfl⟩ := map_ok.mp accepted
  obtain ⟨piece,same,again⟩ := reads _ _ _ got
  refine ⟨piece,same,?_⟩
  intro more
  simp only [again,Except.map]

theorem Local.followed (first : Local read) (second : ∀ value, Local (next value)) (lift : ε → ε')
    (steps : ∀ input, whole input = match read input with
      | .error fault => .error (lift fault)
      | .ok (value,left) => next value left) : Local whole := by
  intro input made rest accepted
  rw [steps] at accepted
  cases got : read input with
  | error fault => rw [got] at accepted; cases accepted
  | ok pair =>
    obtain ⟨value,left⟩ := pair
    rw [got] at accepted
    obtain ⟨front,rfl,again⟩ := first _ _ _ got
    obtain ⟨back,rfl,after⟩ := second value _ _ _ accepted
    refine ⟨front ++ back,(List.append_assoc _ _ _).symm,?_⟩
    intro more
    rw [steps,List.append_assoc,again]
    exact after more

theorem local_made (made : Except ε α) : Local fun input => made.map fun value => (value,input) := by
  intro input value rest accepted
  obtain ⟨held,rfl,same⟩ := map_ok.mp accepted
  cases same
  exact ⟨[],rfl,fun _ => rfl⟩

theorem local_varint (room : Nat) : Local (readVarint room) := by
  intro input value rest accepted
  obtain ⟨piece,same,alone⟩ := readVarint_piece accepted
  exact ⟨piece,same,fun more => readVarint_append alone more⟩

theorem local_exact (count : Nat) (fault : Fault) : Local (readExact count fault) := by
  intro input value rest accepted
  unfold readExact at accepted
  dsimp only at accepted
  split at accepted
  · rename_i sized
    cases accepted
    refine ⟨input.take count,(List.take_append_drop _ _).symm,?_⟩
    intro more
    unfold readExact
    simp only [List.take_left' sized,List.drop_left' sized,sized,if_true]
  · cases accepted

theorem local_int64 : Local readInt64 := by
  apply Local.followed (local_varint 64) (fun n => local_made (.ok (Int64.ofInt (signed n)))) id
  intro input
  unfold readInt64 readVarint64
  cases readVarint 64 input <;> rfl

theorem local_int32 : Local readInt32 := by
  have inside (n : Nat) := local_made (if Int32.minValue.toInt ≤ signed n ∧ signed n ≤ Int32.maxValue.toInt
    then .ok (Int32.ofInt (signed n)) else .error (Fault.outOfInt32 (signed n)))
  apply Local.followed (local_varint 64) inside id
  intro input
  unfold readInt32 readVarint64
  cases readVarint 64 input with
  | error fault => rfl
  | ok pair => dsimp only; split <;> rfl

theorem local_sized (fault : Nat → Fault) : Local fun input => match readVarint32 input with
    | .error fault => .error fault
    | .ok (size,left) => readExact size (fault size) left := by
  apply (local_varint 32).followed (fun size => local_exact size (fault size)) id
  intro input
  unfold readVarint32
  cases readVarint 32 input <;> rfl

theorem local_bytes : Local readBytes :=
  local_sized fun size => if size < implausibleLength then .endOfInput else .truncated

theorem local_tag : Local readTag := by
  have known (code : Nat) := local_made
    ((Tag.ofCode? code).elim (.error (Failure.corrupted (.invalidTag code))) .ok)
  apply (local_varint 32).followed known .unreadable
  intro input
  unfold readTag readVarint32
  cases readVarint 32 input with
  | error fault => rfl
  | ok pair => dsimp only; cases Tag.ofCode? pair.1 <;> rfl

theorem local_slot (slot : Slot α) : Local slot.read := by
  cases slot with
  | int32 put =>
    apply local_int32.followed (fun value => local_made (.ok (put value))) .unreadable
    intro input
    unfold Slot.read
    cases readInt32 input <;> rfl
  | int64 put =>
    apply local_int64.followed (fun value => local_made (.ok (put value))) .unreadable
    intro input
    unfold Slot.read
    cases readInt64 input <;> rfl
  | bytes put =>
    apply local_bytes.followed (fun held => local_made (put held)) .unreadable
    intro input
    unfold Slot.read
    cases readBytes input <;> rfl

theorem passing_flat (kind : Kind) : Passing (skipFlat kind) := by
  cases kind with
  | varint => exact (local_varint 64).passing
  | fixed64 => exact (local_exact 8 .endOfInput).passing
  | fixed32 => exact (local_exact 4 .endOfInput).passing
  | delimited =>
    have sized := (local_sized fun _ => .endOfInput).passing
    convert sized using 2 with input
    unfold skipFlat
    cases readVarint32 input <;> rfl
  | groupStart =>
    intro input rest accepted
    cases accepted
    exact ⟨[],rfl,fun _ => rfl⟩
  | groupEnd => exact fun _ _ accepted => nomatch accepted

end Readers

section Groups

inductive Skips (depth : Nat) (input rest : Bytes) : Prop where
  | ended (nothing : input = []) (used : rest = [])
  | last (read : readTag input = .ok (⟨field,.groupEnd⟩,rest)) (innermost : depth = 0)
  | leave (read : readTag input = .ok (⟨field,.groupEnd⟩,left)) (nested : depth = outer + 1)
      (onward : skipGroups (outer + 1) left = .ok rest)
  | enter (read : readTag input = .ok (⟨field,.groupStart⟩,left)) (room : depth + 1 < maxDepth)
      (onward : skipGroups (depth + 2) left = .ok rest)
  | pass (read : readTag input = .ok (⟨field,kind⟩,payload)) (flat : kind ≠ .groupStart)
      (passed : skipFlat kind payload = .ok left) (onward : skipGroups (depth + 1) left = .ok rest)

-- A text in which `depth` open groups are closed, and which ends with the last end tag.
inductive Closes : Nat → Bytes → Prop where
  | last (tag : readTag closing = .ok (⟨field,.groupEnd⟩,[])) : Closes 1 closing
  | leave (tag : readTag closing = .ok (⟨field,.groupEnd⟩,[])) (onward : Closes (depth + 1) later) :
      Closes (depth + 2) (closing ++ later)
  | enter (tag : readTag opening = .ok (⟨field,.groupStart⟩,[])) (room : depth + 1 < maxDepth)
      (onward : Closes (depth + 2) later) : Closes (depth + 1) (opening ++ later)
  | pass (tag : readTag opening = .ok (⟨field,kind⟩,[])) (flat : kind ≠ .groupStart)
      (passed : skipFlat kind payload = .ok []) (onward : Closes (depth + 1) later) :
      Closes (depth + 1) (opening ++ (payload ++ later))

def Swallowed (more : Bytes) : Prop := ∀ depth, skipGroups depth more = .ok []

variable {kind : Kind} {tag : Tag} {field depth : Nat} {input rest text payload : Bytes} {failure : Failure}

theorem readTag_ok : readTag input = .ok (tag,rest) ↔
    ∃ code, readVarint32 input = .ok (code,rest) ∧ Tag.ofCode? code = some tag := by
  constructor
  · intro read
    unfold readTag at read
    split at read
    · cases read
    · rename_i code left found
      split at read
      · cases read
      · rename_i known
        cases read
        exact ⟨code,found,known⟩
  · rintro ⟨code,found,known⟩
    simp only [readTag,found,known]

theorem skipGroups_tag (read : readTag input = .ok (⟨field,kind⟩,rest)) : skipGroups depth input =
    if kind = .groupEnd then if depth ≤ 1 then .ok rest else skipGroups (depth - 1) rest
    else if kind = .groupStart then if maxDepth ≤ depth then .error .tooDeep else skipGroups (depth + 1) rest
    else skipFlat kind rest >>= skipGroups depth := by
  obtain ⟨code,found,known⟩ := readTag_ok.mp read
  cases input with
  | nil => cases found
  | cons first others =>
    rw [skipGroups]
    split
    · rename_i failed; rw [found] at failed; cases failed
    · rename_i got
      rw [found] at got
      cases got
      cases kind with
      | groupStart => simp [known]
      | groupEnd => simp [known]
      | _ =>
        simp only [known,reduceCtorEq,if_false]
        split <;> rename_i passed <;> rw [passed] <;> rfl

theorem skipGroups_nil (depth : Nat) : skipGroups depth [] = .ok [] := by rw [skipGroups]

theorem skipGroups_last (read : readTag input = .ok (⟨field,.groupEnd⟩,rest)) :
    skipGroups 1 input = .ok rest := by
  simp [skipGroups_tag read]

theorem skipGroups_leave (read : readTag input = .ok (⟨field,.groupEnd⟩,rest)) :
    skipGroups (depth + 2) input = skipGroups (depth + 1) rest := by
  simp [skipGroups_tag read]

theorem skipGroups_enter (read : readTag input = .ok (⟨field,.groupStart⟩,rest)) (room : depth < maxDepth) :
    skipGroups depth input = skipGroups (depth + 1) rest := by
  simp [skipGroups_tag read,Nat.not_le.mpr room]

theorem skipGroups_pass (read : readTag input = .ok (⟨field,kind⟩,payload)) (flat : kind ≠ .groupStart)
    (passed : skipFlat kind payload = .ok rest) : skipGroups depth input = skipGroups depth rest := by
  have inside : kind ≠ .groupEnd := by rintro rfl; cases passed
  simp [skipGroups_tag read,inside,flat,passed,bind,Except.bind]

theorem skipGroups_refused (refused : readTag input = .error failure) (used : input ≠ []) :
    skipGroups depth input ≠ .ok rest := by
  intro accepted
  cases input with
  | nil => exact used rfl
  | cons first others =>
    rw [skipGroups] at accepted
    unfold readTag at refused
    split at accepted
    · cases accepted
    · rename_i got
      rw [got] at refused
      cases known : Tag.ofCode? _ with
      | none => rw [known] at accepted; cases accepted
      | some tag => simp only [known] at refused; cases refused

theorem skipGroups_step (accepted : skipGroups (depth + 1) input = .ok rest) : Skips depth input rest := by
  cases read : readTag input with
  | error failure =>
    by_cases nothing : input = []
    · rw [nothing,skipGroups_nil] at accepted
      exact .ended nothing (Except.ok.inj accepted).symm
    · exact absurd accepted (skipGroups_refused read nothing)
  | ok pair =>
    obtain ⟨⟨field,kind⟩,left⟩ := pair
    rw [skipGroups_tag read] at accepted
    split at accepted
    · rename_i closing
      subst closing
      cases depth with
      | zero => cases accepted; exact .last read rfl
      | succ outer => exact .leave read rfl accepted
    · split at accepted
      · rename_i opening
        subst opening
        split at accepted
        · cases accepted
        · exact .enter read (by omega) accepted
      · rename_i flat
        obtain ⟨after,passed,onward⟩ := bind_ok.mp accepted
        exact .pass read flat passed onward

theorem closes_skips (closes : Closes depth text) (more : Bytes) : skipGroups depth (text ++ more) = .ok more := by
  induction closes with
  | last tag => exact skipGroups_last (local_tag.onward tag more)
  | leave tag _ ih => rw [List.append_assoc,skipGroups_leave (local_tag.onward tag _),ih]
  | enter tag room _ ih => rw [List.append_assoc,skipGroups_enter (local_tag.onward tag _) room,ih]
  | @pass _ _ kind _ _ _ tag flat passed _ ih =>
    rw [List.append_assoc,List.append_assoc,skipGroups_pass (local_tag.onward tag _) flat
      ((passing_flat kind).onward passed _),ih]

-- Open groups are closed before the end of the input, or they take all of it, and what
-- comes behind it too.
theorem skipGroups_closes (accepted : skipGroups (depth + 1) input = .ok rest) :
    (∃ text, input = text ++ rest ∧ Closes (depth + 1) text) ∨
    rest = [] ∧ ∀ more, Swallowed more → skipGroups (depth + 1) (input ++ more) = .ok [] := by
  induction known : input.length using Nat.strongRecOn generalizing depth input with
  | ind size ih =>
    subst known
    cases skipGroups_step accepted with
    | ended nothing used =>
      subst nothing used
      exact .inr ⟨rfl,fun more swallowed => swallowed _⟩
    | last read innermost =>
      subst innermost
      obtain ⟨closing,rfl,tag⟩ := local_tag.piece read
      exact .inl ⟨closing,rfl,.last tag⟩
    | @leave field left outer read nested onward =>
      subst nested
      obtain ⟨closing,rfl,tag⟩ := local_tag.piece read
      rcases ih _ (readTag_shortens read) onward rfl with ⟨later,rfl,closes⟩ | ⟨rfl,stays⟩
      · exact .inl ⟨closing ++ later,(List.append_assoc _ _ _).symm,.leave tag closes⟩
      · refine .inr ⟨rfl,fun more swallowed => ?_⟩
        rw [List.append_assoc,skipGroups_leave (local_tag.onward tag _),stays more swallowed]
    | enter read room onward =>
      obtain ⟨opening,rfl,tag⟩ := local_tag.piece read
      rcases ih _ (readTag_shortens read) onward rfl with ⟨later,rfl,closes⟩ | ⟨rfl,stays⟩
      · exact .inl ⟨opening ++ later,(List.append_assoc _ _ _).symm,.enter tag room closes⟩
      · refine .inr ⟨rfl,fun more swallowed => ?_⟩
        rw [List.append_assoc,skipGroups_enter (local_tag.onward tag _) room,stays more swallowed]
    | @pass field kind left after read flat passed onward =>
      have shorter := Nat.lt_of_le_of_lt (skipFlat_keeps passed) (readTag_shortens read)
      obtain ⟨opening,rfl,tag⟩ := local_tag.piece read
      obtain ⟨payload,rfl,alone⟩ := (passing_flat kind).piece passed
      rcases ih _ shorter onward rfl with ⟨later,rfl,closes⟩ | ⟨rfl,stays⟩
      · refine .inl ⟨opening ++ (payload ++ later),?_,.pass tag flat alone closes⟩
        simp only [List.append_assoc]
      · refine .inr ⟨rfl,fun more swallowed => ?_⟩
        rw [List.append_assoc,List.append_assoc,skipGroups_pass (local_tag.onward tag _) flat
          ((passing_flat kind).onward alone _),stays more swallowed]

end Groups
end DistinctCount.Wire
