import DistinctCount.Proofs.Concatenation
import DistinctCount.Proofs.Reached

-- A stored sketch that lost its end is never taken for a sketch. A cut inside a field is
-- seen by the reader of that field, as all of them stop at lengths they read before. A cut
-- between two fields leaves a readable message, but one without the state, which is written
-- last.

namespace DistinctCount
open Wire

namespace Wire
variable {α ε : Type} {read : Bytes → Except ε (α × Bytes)} {schema : Schema α} {slot : Slot α} {acc part x : α}
  {value : α} {number : Nat} {front back text payload : Bytes} {pieces : List (Piece schema)} {piece : Piece schema}
  {wanted : Nat → Prop} {msg : Message}

theorem Local.cut (reads : Local read) (whole : read (front ++ back) = .ok (value,[])) (missing : back ≠ []) :
    ∃ fault, read front = .error fault := by
  cases early : read front with
  | error fault => exact ⟨fault,rfl⟩
  | ok pair =>
    obtain ⟨other,rest⟩ := pair
    obtain ⟨piece,rfl,again⟩ := reads _ _ _ early
    rw [List.append_assoc,again] at whole
    have used : rest ++ back = [] := congrArg Prod.snd (Except.ok.inj whole)
    exact absurd (List.append_eq_nil_iff.mp used).2 missing

-- What is behind the tag of a known field is read by its slot, which takes the same part of
-- every text. So nothing that a cut leaves is read as another field.
theorem readField_cut (known : schema.slot piece.number ≠ none) (cut : front ++ back = piece.text)
    (missing : back ≠ []) : ∃ failure, schema.readField front = .error failure := by
  obtain ⟨number,text,part,complete⟩ := piece
  dsimp only at known cut
  cases complete with
  | unknown _ unassigned => exact absurd unassigned known
  | group _ unassigned => exact absurd unassigned known
  | @known opening payload _ slot tag assigned held =>
    cases early : readTag front with
    | error failure => exact ⟨failure,by rw [Schema.readField,early]⟩
    | ok pair =>
      obtain ⟨found,left⟩ := pair
      obtain ⟨start,rfl,again⟩ := local_tag _ _ _ early
      have behind := local_tag.onward tag payload
      rw [←cut,List.append_assoc,again] at behind
      obtain ⟨rfl,rfl⟩ := Prod.mk.inj (Except.ok.inj behind)
      obtain ⟨failure,refused⟩ := (local_slot slot).cut held missing
      refine ⟨failure,?_⟩
      rw [readField_tag early]
      simp only [assigned,if_true,refused]

theorem readOnto_cut (known : ∀ piece ∈ pieces, schema.slot piece.number ≠ none) (cut : front ++ back = joined pieces)
    (accepted : schema.readOnto acc front = .ok x) :
    ∃ before after, pieces = before ++ after ∧ joined after = back ∧ x = gathered acc before := by
  induction pieces generalizing acc front with
  | nil =>
    obtain ⟨rfl,rfl⟩ := List.append_eq_nil_iff.mp cut
    rw [readOnto_nil] at accepted
    exact ⟨[],[],rfl,rfl,(Except.ok.inj accepted).symm⟩
  | cons piece pieces ih =>
    have later : ∀ other ∈ pieces, schema.slot other.number ≠ none :=
      fun other member => known other (List.mem_cons_of_mem _ member)
    rw [joined_cons] at cut
    have passed (left : Bytes) (same : front = piece.text ++ left) (onward : left ++ back = joined pieces) :
        ∃ before after, piece :: pieces = before ++ after ∧ joined after = back ∧ x = gathered acc before := by
      rw [same,readOnto_field acc (complete_read piece.complete left)] at accepted
      obtain ⟨before,after,rfl,rest,made⟩ := ih later onward accepted
      exact ⟨piece :: before,after,rfl,rest,made⟩
    rcases List.append_eq_append_iff.mp cut with ⟨left,inside,rest⟩ | ⟨left,same,rest⟩
    · by_cases none : front = []
      · subst none
        rw [readOnto_nil] at accepted
        refine ⟨[],piece :: pieces,rfl,?_,(Except.ok.inj accepted).symm⟩
        rw [joined_cons]
        exact cut.symm
      · by_cases ended : left = []
        · subst ended
          rw [List.append_nil] at inside
          exact passed [] (by rw [inside,List.append_nil]) rest
        · obtain ⟨failure,refused⟩ := readField_cut (known piece List.mem_cons_self) inside.symm ended
          rw [readOnto_refused refused none] at accepted
          cases accepted
    · exact passed left same rest.symm

def Fields (schema : Schema α) (wanted : Nat → Prop) (text : Bytes) : Prop :=
  ∃ pieces : List (Piece schema), joined pieces = text ∧ ∀ piece ∈ pieces, wanted piece.number

theorem Fields.nothing (schema : Schema α) (wanted : Nat → Prop) : Fields schema wanted [] := ⟨[],rfl,nofun⟩

theorem Fields.append (first : Fields schema wanted front) (second : Fields schema wanted back) :
    Fields schema wanted (front ++ back) := by
  obtain ⟨pieces,rfl,left⟩ := first
  obtain ⟨others,rfl,right⟩ := second
  exact ⟨pieces ++ others,List.flatMap_append,List.forall_mem_append.mpr ⟨left,right⟩⟩

theorem complete_written (assigned : schema.slot number = some slot) (numbered : number ≠ 0) (small : number < 2 ^ 28)
    (held : slot.read (payload ++ []) = .ok (part,[])) :
    Complete schema number (Tag.write ⟨number,slot.kind⟩ ++ payload) part := by
  have tag := readTag_write ⟨number,slot.kind⟩ [] numbered (slot_code slot small)
  rw [List.append_nil] at tag held
  exact .known tag assigned held

theorem fields_int32 {put : Int32 → α} (assigned : schema.slot number = some (.int32 put)) (numbered : number ≠ 0)
    (small : number < 2 ^ 28) (among : wanted number) (value : Option Int32) :
    Fields schema wanted (writeIntField number (value.map Int32.toInt)) := by
  cases value with
  | none => exact .nothing schema wanted
  | some value =>
    have complete := complete_written assigned numbered small (readSlot_int32 put value [])
    exact ⟨[⟨_,_,_,complete⟩],List.append_nil _,by simpa using among⟩

theorem fields_int64 {put : Int64 → α} (assigned : schema.slot number = some (.int64 put)) (numbered : number ≠ 0)
    (small : number < 2 ^ 28) (among : wanted number) (value : Option Int64) :
    Fields schema wanted (writeIntField number (value.map Int64.toInt)) := by
  cases value with
  | none => exact .nothing schema wanted
  | some value =>
    have complete := complete_written assigned numbered small (readSlot_int64 put value [])
    exact ⟨[⟨_,_,_,complete⟩],List.append_nil _,by simpa using among⟩

def Message.Heading (number : Nat) : Prop := Message.schema.slot number ≠ none ∧ number ≠ 112

def Message.heading (msg : Message) : Bytes :=
  writeIntField 1 (msg.aggregator.map Int32.toInt) ++
  writeIntField 2 (msg.total.map Int64.toInt) ++
  writeIntField 3 (msg.version.map Int32.toInt) ++
  writeIntField 4 (msg.valueType.map Int32.toInt)

theorem Message.heading_fields (msg : Message) : Fields Message.schema Heading msg.heading :=
  (((fields_int32 rfl (by decide) (by decide) ⟨nofun,by decide⟩ msg.aggregator).append
    (fields_int64 rfl (by decide) (by decide) ⟨nofun,by decide⟩ msg.total)).append
    (fields_int32 rfl (by decide) (by decide) ⟨nofun,by decide⟩ msg.version)).append
    (fields_int32 rfl (by decide) (by decide) ⟨nofun,by decide⟩ msg.valueType)

theorem Message.heading_part {piece : Piece Message.schema} (heading : Heading piece.number) :
    piece.part.state = none := by
  obtain ⟨number,text,part,complete⟩ := piece
  cases complete with
  | known _ assigned held =>
    cases message_parts assigned (slot_makes held) with
    | state => exact absurd rfl heading.2
    | _ => rfl
  | unknown _ unassigned => exact absurd unassigned heading.1
  | group _ unassigned => exact absurd unassigned heading.1

theorem Message.heading_gathered {pieces : List (Piece Message.schema)}
    (heading : ∀ piece ∈ pieces, Heading piece.number) (stateless : msg.state = none) :
    (gathered msg pieces).state = none := by
  induction pieces generalizing msg with
  | nil => exact stateless
  | cons piece pieces ih =>
    have part := heading_part (heading piece List.mem_cons_self)
    refine ih (fun other member => heading other (List.mem_cons_of_mem _ member)) ?_
    simp only [Message.schema,merge,stateless,part]

theorem Message.write_fields (msg : Message)
    (short : ∀ state, msg.state = some state → state.write.length < UInt32.size) :
    ∃ pieces : List (Piece Message.schema), joined pieces = msg.write ∧
      (∀ piece ∈ pieces, Message.schema.slot piece.number ≠ none) ∧
      ∀ piece ∈ pieces.dropLast, Heading piece.number := by
  obtain ⟨heads,text,heading⟩ := msg.heading_fields
  have whole : msg.write = msg.heading ++ writeBytesField 112 (msg.state.map SketchState.write) := rfl
  have known : ∀ piece ∈ heads, Message.schema.slot piece.number ≠ none :=
    fun piece member => (heading piece member).1
  cases present : msg.state with
  | none =>
    refine ⟨heads,?_,known,fun piece member => heading piece (List.mem_of_mem_dropLast member)⟩
    rw [whole,present,text]
    exact (List.append_nil _).symm
  | some state =>
    have held := readSlot_bytes (fun text => (SketchState.read text).map fun state => ({ state := some state } : Message))
      (short state present) (state.put_write (short state present)) []
    let last : Piece Message.schema := ⟨112,_,_,complete_written rfl (by decide) (by decide) held⟩
    refine ⟨heads ++ [last],?_,List.forall_mem_append.mpr ⟨known,?_⟩,?_⟩
    · rw [whole,present,joined,List.flatMap_append,←joined,text]
      exact congrArg _ (List.append_nil _)
    · exact List.forall_mem_singleton.mpr nofun
    · rw [List.dropLast_concat]
      exact heading

theorem Message.read_cut {x : Message} (short : ∀ state, msg.state = some state → state.write.length < UInt32.size)
    (cut : front ++ back = msg.write) (missing : back ≠ []) (accepted : Message.read front = .ok x) :
    x.state = none := by
  obtain ⟨pieces,text,known,heading⟩ := msg.write_fields short
  obtain ⟨before,after,rfl,rest,rfl⟩ := readOnto_cut known (cut.trans text.symm) accepted
  have more : after ≠ [] := by
    rintro rfl
    exact missing rest.symm
  rw [List.dropLast_append_of_ne_nil more] at heading
  exact heading_gathered (fun piece member => heading piece (List.mem_append_left _ member)) rfl

end Wire

namespace Sketch
variable {s : Sketch} {front : Bytes}

theorem ofBytes_cut (reached : Reached s) (cut : front <+: s.toBytes) :
    (∃ failure, ofBytes front = .error failure) ↔ front ≠ s.toBytes := by
  obtain ⟨hashes,holds⟩ := reached_holds reached
  constructor
  · rintro ⟨failure,refused⟩ rfl
    rw [ofBytes_toBytes holds] at refused
    cases refused
  · intro shorter
    obtain ⟨back,whole⟩ := cut
    have missing : back ≠ [] := by
      rintro rfl
      rw [List.append_nil] at whole
      exact shorter whole
    have short : ∀ state, s.toMessage.state = some state → state.write.length < UInt32.size := by
      rintro _ ⟨⟩
      exact toState_write holds
    cases read : ofBytes front with
    | error failure => exact ⟨failure,rfl⟩
    | ok run =>
      obtain ⟨msg,parsed,accepted⟩ := bind_ok.mp read
      obtain ⟨_,state,_,_,_,present,_⟩ := ofMessage_parts accepted
      rw [Message.read_cut short whole missing parsed] at present
      cases present

theorem headless_refused :
    let s := ((blank ⟨10,25⟩).insert 5).value
    Reached s ∧ [8,112,16,1,24,2] <+: s.toBytes ∧
      Message.read [8,112,16,1,24,2] = .ok { aggregator := some 112,total := some 1,version := some 2 } ∧
      ∃ failure, ofBytes [8,112,16,1,24,2] = .error failure := by
  intro s
  have reached : Reached s := .inserted 5 (.created (p := ⟨10,25⟩) rfl)
  have heading : s.toMessage.heading = [8,112,16,1,24,2] := by decide +kernel
  have whole : [8,112,16,1,24,2] ++ writeBytesField 112 (some s.toState.write) = s.toBytes := by
    rw [←heading]
    rfl
  have shorter : [8,112,16,1,24,2] ≠ s.toBytes := by
    rw [←whole,Ne,List.self_eq_append_right,writeBytesField,List.append_eq_nil_iff]
    exact fun nothing => absurd nothing.1 (by decide +kernel)
  exact ⟨reached,⟨_,whole⟩,by decide +kernel,(ofBytes_cut reached ⟨_,whole⟩).mpr shorter⟩

end Sketch
end DistinctCount
