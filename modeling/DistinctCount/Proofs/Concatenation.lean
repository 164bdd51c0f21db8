import DistinctCount.Proofs.Locality
import DistinctCount.Proofs.Message

-- A text is read as the merge of what its fields stand for. So two texts one behind the
-- other are read as the merge of both, as long as the first one leaves no group open.

namespace DistinctCount.Wire
variable {α : Type}

-- One field with all that belongs to it, and the message that it stands for. A field of
-- unknown number stands for nothing.
inductive Complete (schema : Schema α) (number : Nat) : Bytes → α → Prop where
  | known {slot : Slot α} (tag : readTag opening = .ok (⟨number,slot.kind⟩,[]))
      (assigned : schema.slot number = some slot) (held : slot.read payload = .ok (part,[])) :
      Complete schema number (opening ++ payload) part
  | unknown (tag : readTag opening = .ok (⟨number,kind⟩,[])) (unassigned : schema.slot number = none)
      (flat : kind ≠ .groupStart) (passed : skipFlat kind payload = .ok []) :
      Complete schema number (opening ++ payload) schema.empty
  | group (tag : readTag opening = .ok (⟨number,.groupStart⟩,[])) (unassigned : schema.slot number = none)
      (closes : Closes 1 body) : Complete schema number (opening ++ body) schema.empty

structure Piece (schema : Schema α) where
  number : Nat
  text : Bytes
  part : α
  complete : Complete schema number text part

def joined {schema : Schema α} (pieces : List (Piece schema)) : Bytes := pieces.flatMap Piece.text

def gathered {schema : Schema α} (acc : α) (pieces : List (Piece schema)) : α :=
  pieces.foldl (fun acc piece => schema.merge acc piece.part) acc

-- Texts of complete fields only: no group is left open at the end.
def Whole (schema : Schema α) (text : Bytes) : Prop := ∃ pieces : List (Piece schema), joined pieces = text

def Slot.Makes (slot : Slot α) (part : α) : Prop :=
  match slot with
  | .int32 put => ∃ value, put value = part
  | .int64 put => ∃ value, put value = part
  | .bytes put => ∃ held, put held = .ok part

structure Schema.Lawful (schema : Schema α) : Prop where
  assoc : ∀ x y z, schema.merge (schema.merge x y) z = schema.merge x (schema.merge y z)
  empty_merge : ∀ x, schema.merge schema.empty x = x
  merge_empty : ∀ x, schema.merge x schema.empty = x
  apart : ∀ {m n left right x y}, schema.slot m = some left → schema.slot n = some right →
    left.Makes x → right.Makes y → m ≠ n → schema.merge x y = schema.merge y x

variable {schema : Schema α} {acc part x y : α} {slot : Slot α} {failure : Failure} {number : Nat}
  {input rest text a b : Bytes} {pieces others front back : List (Piece schema)} {piece : Piece schema}

theorem slot_makes (read : slot.read input = .ok (part,rest)) : slot.Makes part := by
  cases slot with
  | int32 put =>
    obtain ⟨⟨value,left⟩,_,same⟩ := map_ok.mp read
    exact ⟨value,congrArg Prod.fst same⟩
  | int64 put =>
    obtain ⟨⟨value,left⟩,_,same⟩ := map_ok.mp read
    exact ⟨value,congrArg Prod.fst same⟩
  | bytes put =>
    unfold Slot.read at read
    dsimp only at read
    split at read
    · cases read
    · rename_i held left _
      obtain ⟨value,made,same⟩ := map_ok.mp read
      cases same
      exact ⟨held,made⟩

theorem readField_tag {tag : Tag} (read : readTag input = .ok (tag,rest)) : schema.readField input =
    match schema.slot tag.field with
    | none => (lifted (skipPayload tag.kind rest)).map (schema.empty,·)
    | some slot => if slot.kind = tag.kind then slot.read rest
      else .error (.corrupted (.unexpectedKind tag.kind tag.field)) := by
  unfold Schema.readField
  cases assigned : schema.slot tag.field <;> simp only [read,assigned]

theorem skipPayload_flat {kind : Kind} (flat : kind ≠ .groupStart) : skipPayload kind = skipFlat kind := by
  funext input
  cases kind <;> simp_all [skipPayload]

theorem complete_read (complete : Complete schema number text part) (more : Bytes) :
    schema.readField (text ++ more) = .ok (part,more) := by
  cases complete with
  | known tag assigned held =>
    rw [List.append_assoc,readField_tag (local_tag.onward tag _)]
    simp only [assigned,if_true]
    exact (local_slot _).onward held more
  | @unknown _ kind _ tag unassigned flat passed =>
    rw [List.append_assoc,readField_tag (local_tag.onward tag _)]
    simp only [unassigned,skipPayload_flat flat,(passing_flat kind).onward passed,lifted,Except.map]
  | group tag unassigned closes =>
    rw [List.append_assoc,readField_tag (local_tag.onward tag _)]
    simp only [unassigned,skipPayload,closes_skips closes,lifted,Except.map]

-- Either the field is complete, or it is a group that takes the rest of the input and
-- whatever comes behind it.
theorem readField_complete (accepted : schema.readField input = .ok (part,rest)) :
    (∃ number text, input = text ++ rest ∧ Complete schema number text part) ∨
    ∀ more, Swallowed more → schema.readField (input ++ more) = .ok (part,rest) := by
  cases read : readTag input with
  | error failure => rw [Schema.readField,read] at accepted; cases accepted
  | ok pair =>
    obtain ⟨⟨number,kind⟩,left⟩ := pair
    rw [readField_tag read] at accepted
    obtain ⟨opening,rfl,tag⟩ := local_tag.piece read
    cases assigned : schema.slot number with
    | some slot =>
      simp only [assigned] at accepted
      split at accepted
      · rename_i same
        subst same
        obtain ⟨payload,rfl,held⟩ := (local_slot slot).piece accepted
        exact .inl ⟨number,opening ++ payload,(List.append_assoc _ _ _).symm,.known tag assigned held⟩
      · cases accepted
    | none =>
      simp only [assigned] at accepted
      obtain ⟨left',passed,same⟩ := map_ok.mp accepted
      cases same
      rw [lifted_ok] at passed
      by_cases flat : kind = .groupStart
      · subst flat
        rcases skipGroups_closes passed with ⟨body,rfl,closes⟩ | ⟨rfl,stays⟩
        · exact .inl ⟨number,opening ++ body,(List.append_assoc _ _ _).symm,.group tag assigned closes⟩
        · refine .inr fun more swallowed => ?_
          rw [List.append_assoc,readField_tag (local_tag.onward tag _)]
          simp only [assigned,skipPayload,stays more swallowed,lifted,Except.map]
      · rw [skipPayload_flat flat] at passed
        obtain ⟨payload,rfl,alone⟩ := (passing_flat kind).piece passed
        exact .inl ⟨number,opening ++ payload,(List.append_assoc _ _ _).symm,.unknown tag assigned flat alone⟩

theorem joined_cons (piece : Piece schema) (pieces : List (Piece schema)) :
    joined (piece :: pieces) = piece.text ++ joined pieces := List.flatMap_cons

theorem gathered_cons (acc : α) (piece : Piece schema) (pieces : List (Piece schema)) :
    gathered acc (piece :: pieces) = gathered (schema.merge acc piece.part) pieces := rfl

theorem readOnto_joined (pieces : List (Piece schema)) (acc : α) (rest : Bytes) :
    schema.readOnto acc (joined pieces ++ rest) = schema.readOnto (gathered acc pieces) rest := by
  induction pieces generalizing acc with
  | nil => rfl
  | cons piece pieces ih =>
    rw [joined_cons,List.append_assoc,readOnto_field acc (complete_read piece.complete _),ih]
    rfl

theorem readOnto_refused (refused : schema.readField input = .error failure) (used : input ≠ []) (acc : α) :
    schema.readOnto acc input = .error failure := by
  cases input with
  | nil => exact absurd rfl used
  | cons first others =>
    rw [Schema.readOnto]
    split
    · rename_i failed; rw [refused] at failed; cases failed; rfl
    · rename_i got; rw [refused] at got; cases got

theorem readOnto_whole (accepted : schema.readOnto acc input = .ok x) : Whole schema input ∨
    ∀ more, Swallowed more → schema.readOnto acc (input ++ more) = .ok x := by
  induction size : input.length using Nat.strongRecOn generalizing acc input with
  | ind n ih =>
    subst size
    by_cases nothing : input = []
    · exact .inl ⟨[],nothing.symm⟩
    · cases read : schema.readField input with
      | error failure => rw [readOnto_refused read nothing] at accepted; cases accepted
      | ok pair =>
        obtain ⟨part,rest⟩ := pair
        have shorter := readField_shortens schema read
        rw [readOnto_field acc read] at accepted
        rcases readField_complete read with ⟨number,text,rfl,complete⟩ | stays
        · rcases ih _ shorter accepted rfl with ⟨pieces,rfl⟩ | later
          · exact .inl ⟨⟨number,text,part,complete⟩ :: pieces,joined_cons _ _⟩
          · refine .inr fun more swallowed => ?_
            rw [List.append_assoc,readOnto_field acc (complete_read complete _)]
            exact later more swallowed
        · refine .inr fun more swallowed => ?_
          rw [readOnto_field acc (stays more swallowed)]
          exact accepted

theorem readOnto_merge (lawful : schema.Lawful) (x acc : α) (input : Bytes) :
    schema.readOnto (schema.merge x acc) input = (schema.readOnto acc input).map (schema.merge x) := by
  induction size : input.length using Nat.strongRecOn generalizing acc input with
  | ind n ih =>
    subst size
    by_cases nothing : input = []
    · subst nothing
      rw [readOnto_nil,readOnto_nil]
      rfl
    · cases read : schema.readField input with
      | error failure =>
        rw [readOnto_refused read nothing,readOnto_refused read nothing]
        rfl
      | ok pair =>
        obtain ⟨part,rest⟩ := pair
        rw [readOnto_field _ read,readOnto_field _ read,lawful.assoc]
        exact ih _ (readField_shortens schema read) _ _ rfl

-- A whole text in front adds what it stands for, and nothing else: what follows is
-- accepted or refused for the same reason as on its own.
theorem read_behind (lawful : schema.Lawful) (whole : Whole schema a) (read : schema.read a = .ok x) (b : Bytes) :
    schema.read (a ++ b) = (schema.read b).map (schema.merge x) := by
  obtain ⟨pieces,rfl⟩ := whole
  have alone := readOnto_joined pieces schema.empty []
  rw [List.append_nil,readOnto_nil] at alone
  rw [Schema.read,alone] at read
  rw [Schema.read,readOnto_joined,Except.ok.inj read,Schema.read,←readOnto_merge lawful,lawful.merge_empty]

theorem pieces_apart (lawful : schema.Lawful) {left right : Piece schema} (differ : left.number ≠ right.number) :
    schema.merge left.part right.part = schema.merge right.part left.part := by
  obtain ⟨m,_,x,first⟩ := left
  obtain ⟨n,_,y,second⟩ := right
  cases first with
  | known _ assigned held =>
    cases second with
    | known _ assigned' held' => exact lawful.apart assigned assigned' (slot_makes held) (slot_makes held') differ
    | unknown => exact (lawful.merge_empty _).trans (lawful.empty_merge _).symm
    | group => exact (lawful.merge_empty _).trans (lawful.empty_merge _).symm
  | unknown => exact (lawful.empty_merge _).trans (lawful.merge_empty _).symm
  | group => exact (lawful.empty_merge _).trans (lawful.merge_empty _).symm

theorem gathered_front (lawful : schema.Lawful) (differ : ∀ other ∈ front, other.number ≠ piece.number) (acc : α) :
    gathered acc (front ++ piece :: back) = gathered acc (piece :: (front ++ back)) := by
  induction front generalizing acc with
  | nil => rfl
  | cons first front ih =>
    have moved := ih (fun other member => differ other (List.mem_cons_of_mem _ member)) (schema.merge acc first.part)
    have swapped : schema.merge (schema.merge acc first.part) piece.part =
        schema.merge (schema.merge acc piece.part) first.part := by
      rw [lawful.assoc,pieces_apart lawful (differ first List.mem_cons_self),lawful.assoc]
    rw [List.cons_append,gathered_cons,moved,gathered_cons,swapped]
    rfl

def numbered (pieces : List (Piece schema)) (n : Nat) : List (Piece schema) :=
  pieces.filter fun piece => piece.number = n

theorem gathered_reordered (lawful : schema.Lawful) (same : ∀ n, numbered pieces n = numbered others n) (acc : α) :
    gathered acc pieces = gathered acc others := by
  induction pieces generalizing others acc with
  | nil =>
    cases others with
    | nil => rfl
    | cons first rest =>
      have found := same first.number
      simp [numbered] at found
  | cons piece rest ih =>
    have found := same piece.number
    simp only [numbered,List.filter_cons,decide_true,if_true] at found
    obtain ⟨front,back,rfl,differ,_,_⟩ := List.filter_eq_cons_iff.mp found.symm
    simp only [decide_eq_true_eq] at differ
    rw [gathered_front lawful differ,gathered_cons,gathered_cons]
    apply ih
    intro n
    have all := same n
    simp only [numbered,List.filter_append,List.filter_cons] at all ⊢
    by_cases mine : piece.number = n
    · have none : front.filter (fun other => other.number = n) = [] := by
        simpa [List.filter_eq_nil_iff,←mine] using differ
      simpa [none,mine] using all
    · simpa [mine] using all

theorem unknown_empty (unknown : schema.slot piece.number = none) : piece.part = schema.empty := by
  obtain ⟨n,_,_,complete⟩ := piece
  cases complete with
  | known _ assigned => rw [assigned] at unknown; cases unknown
  | unknown => rfl
  | group => rfl

theorem gathered_unknown (lawful : schema.Lawful) (unknown : ∀ piece ∈ pieces, schema.slot piece.number = none)
    (acc : α) : gathered acc pieces = acc := by
  induction pieces with
  | nil => rfl
  | cons piece rest ih =>
    rw [gathered_cons,unknown_empty (unknown piece List.mem_cons_self),lawful.merge_empty]
    exact ih fun other member => unknown other (List.mem_cons_of_mem _ member)

structure Schema.Arrangeable (schema : Schema α) : Prop where
  reordered : ∀ pieces others : List (Piece schema), (∀ n, numbered pieces n = numbered others n) →
    ∀ b, schema.read (joined pieces ++ b) = schema.read (joined others ++ b)
  inserted : ∀ a, Whole schema a → ∀ unknown : List (Piece schema),
    (∀ piece ∈ unknown, schema.slot piece.number = none) →
    schema.read (joined unknown) = .ok schema.empty ∧
    ∀ b, schema.read (a ++ (joined unknown ++ b)) = schema.read (a ++ b)

theorem lawful_arrangeable (lawful : schema.Lawful) : schema.Arrangeable where
  reordered pieces others same b := by
    rw [Schema.read,Schema.read,readOnto_joined,readOnto_joined,gathered_reordered lawful same]
  inserted a whole unknown unassigned := by
    obtain ⟨pieces,rfl⟩ := whole
    have nothing := gathered_unknown lawful unassigned
    constructor
    · rw [Schema.read,←(joined unknown).append_nil,readOnto_joined,nothing,readOnto_nil]
    · intro b
      simp only [Schema.read,readOnto_joined,nothing]

inductive SketchState.Part : Nat → SketchState → Prop where
  | sparseSize (value : Int32) : Part 2 { sparseSize := some value }
  | precision (value : Int32) : Part 3 { precision := some value }
  | sparsePrecision (value : Int32) : Part 4 { sparsePrecision := some value }
  | data (held : Bytes) : Part 5 { data := some held }
  | sparseData (held : Bytes) : Part 6 { sparseData := some held }

inductive Message.Part : Nat → Message → Prop where
  | aggregator (value : Int32) : Part 1 { aggregator := some value }
  | total (value : Int64) : Part 2 { total := some value }
  | version (value : Int32) : Part 3 { version := some value }
  | valueType (value : Int32) : Part 4 { valueType := some value }
  | state (held : SketchState) : Part 112 { state := some held }

theorem state_parts {slot : Slot SketchState} {state : SketchState} (assigned : SketchState.schema.slot number = some slot)
    (makes : slot.Makes state) : SketchState.Part number state := by
  simp only [SketchState.schema] at assigned
  split at assigned <;> cases assigned
  · obtain ⟨value,rfl⟩ := makes; exact .sparseSize value
  · obtain ⟨value,rfl⟩ := makes; exact .precision value
  · obtain ⟨value,rfl⟩ := makes; exact .sparsePrecision value
  · obtain ⟨held,made⟩ := makes; cases made; exact .data held
  · obtain ⟨held,made⟩ := makes; cases made; exact .sparseData held

theorem message_parts {slot : Slot Message} {msg : Message} (assigned : Message.schema.slot number = some slot)
    (makes : slot.Makes msg) : Message.Part number msg := by
  simp only [Message.schema] at assigned
  split at assigned <;> cases assigned
  · obtain ⟨value,rfl⟩ := makes; exact .aggregator value
  · obtain ⟨value,rfl⟩ := makes; exact .total value
  · obtain ⟨value,rfl⟩ := makes; exact .version value
  · obtain ⟨value,rfl⟩ := makes; exact .valueType value
  · obtain ⟨held,made⟩ := makes
    obtain ⟨state,_,rfl⟩ := map_ok.mp made
    exact .state state

theorem later_assoc {β : Type} (x y z : Option β) : (z <|> (y <|> x)) = ((z <|> y) <|> x) := by
  cases z <;> rfl

theorem later_none {β : Type} (x : Option β) : (x <|> none) = x := by
  cases x <;> rfl

theorem state_assoc (x y z : SketchState) : (x.merge y).merge z = x.merge (y.merge z) := by
  simp only [SketchState.merge,later_assoc]

theorem state_lawful : SketchState.schema.Lawful where
  assoc := state_assoc
  empty_merge x := by
    change SketchState.merge {} x = x
    simp only [SketchState.merge,later_none]
  merge_empty x := by
    change SketchState.merge x {} = x
    rfl
  apart left right first second differ := by
    cases state_parts left first <;> cases state_parts right second <;> first | rfl | exact absurd rfl differ

theorem message_assoc (x y z : Message) : (x.merge y).merge z = x.merge (y.merge z) := by
  simp only [Message.merge,later_assoc]
  cases x.state <;> cases y.state <;> cases z.state <;> simp [state_assoc]

theorem message_lawful : Message.schema.Lawful where
  assoc := message_assoc
  empty_merge x := by
    change Message.merge {} x = x
    obtain ⟨_,_,_,_,state⟩ := x
    simp only [Message.merge,later_none]
    cases state <;> rfl
  merge_empty x := by
    change Message.merge x {} = x
    obtain ⟨_,_,_,_,state⟩ := x
    cases state <;> rfl
  apart left right first second differ := by
    cases message_parts left first <;> cases message_parts right second <;> first | rfl | exact absurd rfl differ

theorem aggregator_swallowed (value : Int32) : Swallowed ({ aggregator := some value } : Message).write := by
  intro depth
  have text : ({ aggregator := some value } : Message).write = Tag.write ⟨1,.varint⟩ ++ writeInt value.toInt := by
    simp [Message.write,writeIntField,writeBytesField]
  have tag := readTag_write ⟨1,.varint⟩ (writeInt value.toInt) (by decide) (by decide)
  have passed : skipFlat .varint (writeInt value.toInt) = .ok [] := by
    have read := readVarint_write 64 _ [] (mod_small value.toInt)
    rw [List.append_nil] at read
    simp only [skipFlat,readVarint64,writeInt,read,Except.map]
  rw [text,skipGroups_pass tag (by decide) passed,skipGroups_nil]

theorem whole_exact {a : Bytes} {x : Message} (read : Message.read a = .ok x) : Whole Message.schema a ↔
    ∀ b y, Message.read b = .ok y → Message.read (a ++ b) = .ok (x.merge y) := by
  constructor
  · intro whole b y behind
    have both := read_behind message_lawful whole read b
    rwa [show Message.schema.read b = .ok y from behind] at both
  · intro merges
    rcases readOnto_whole read with whole | stays
    · exact whole
    · -- An open group would swallow two fields that contradict each other.
      have swallowed (value : Int32) : x = x.merge { aggregator := some value } := by
        have field := Message.read_write { aggregator := some value } nofun
        exact Except.ok.inj ((stays _ (aggregator_swallowed value)).symm.trans (merges _ _ field))
      have zero := congrArg Message.aggregator (swallowed 0)
      have one := congrArg Message.aggregator (swallowed 1)
      cases zero.symm.trans one

-- What is read of a text and another behind it is the merge of both, for exactly those
-- texts that leave no group open. Fields of different numbers may be written in any
-- order, and unknown fields put in between change nothing. The last two hold of the
-- states inside of messages too.
theorem read_concatenated :
    (∀ a x, Message.read a = .ok x → (Whole Message.schema a ↔
      ∀ b y, Message.read b = .ok y → Message.read (a ++ b) = .ok (x.merge y))) ∧
    Message.schema.Arrangeable ∧ SketchState.schema.Arrangeable :=
  ⟨fun _ _ read => whole_exact read,lawful_arrangeable message_lawful,lawful_arrangeable state_lawful⟩

def closedGroup : Piece Message.schema :=
  ⟨9,[75] ++ ([8] ++ ([5] ++ [76])),{},.group rfl rfl (.pass rfl nofun rfl (.last rfl))⟩
def typeField : Piece Message.schema := ⟨1,[8] ++ [112],{ aggregator := some 112 },.known rfl rfl rfl⟩
def totalField : Piece Message.schema := ⟨2,[16] ++ [3],{ total := some 3 },.known rfl rfl rfl⟩

theorem closed_group_passed :
    Message.read ([75,8,5,76,8,112] ++ [16,3]) = .ok { aggregator := some 112,total := some 3 } ∧
    Message.read [8,112,16,3] = Message.read [16,3,8,112] ∧
    Message.read [8,112,75,8,5,76,16,3] = Message.read [8,112,16,3] := by
  obtain ⟨merged,⟨reordered,inserted⟩,_⟩ := read_concatenated
  have whole : Whole Message.schema [75,8,5,76,8,112] := ⟨[closedGroup,typeField],rfl⟩
  refine ⟨?_,?_,?_⟩
  · have front : Message.read [75,8,5,76,8,112] = .ok { aggregator := some 112 } := by decide +kernel
    exact (merged _ _ front).mp whole [16,3] { total := some 3 } (by decide +kernel)
  · refine reordered [typeField,totalField] [totalField,typeField] ?_ []
    intro n
    by_cases first : 1 = n
    · subst first; rfl
    · simp [numbered,List.filter_cons,typeField,first]
  · have unassigned : ∀ piece ∈ [closedGroup], Message.schema.slot piece.number = none := by
      rintro _ (_ | ⟨_,⟨⟩⟩)
      rfl
    exact (inserted [8,112] ⟨[typeField],rfl⟩ [closedGroup] unassigned).2 [16,3]

theorem open_group_swallows :
    Message.read [75] = .ok {} ∧ Message.read [8,112] = .ok { aggregator := some 112 } ∧
      Message.read ([75] ++ [8,112]) ≠ .ok (({} : Message).merge { aggregator := some 112 }) := by
  decide +kernel

end DistinctCount.Wire
