import DistinctCount.Codes.Encoding
import DistinctCount.Proofs.Ranks
import Mathlib.Data.Nat.Bitwise
import Mathlib.Data.Set.Monotone
import Mathlib.Order.Bounds.Image

namespace DistinctCount.Precisions
variable {p target : Precisions} {code r rest x y z : Nat}

theorem flag_two_pow (p : Precisions) : p.flag = 2 ^ max p.sparse (p.normal + rankBits) := Nat.one_shiftLeft _

theorem buckets_flag (p : Precisions) : 2 ^ p.sparse ≤ p.flag := by
  rw [flag_two_pow]
  exact Nat.pow_le_pow_right (by decide) (Nat.le_max_left _ _)

theorem registers_flag (p : Precisions) : 2 ^ p.normal * 64 ≤ p.flag := by
  rw [flag_two_pow,show 64 = 2 ^ rankBits from rfl,←Nat.pow_add]
  exact Nat.pow_le_pow_right (by decide) (Nat.le_max_right _ _)

theorem flag_bound (coded : Coded p) : p.flag ≤ 2 ^ 30 := by
  rw [flag_two_pow]
  have := coded.high
  have := coded.finest
  exact Nat.pow_le_pow_right (by decide) (by simp only [rankBits]; omega)

theorem flagged_inside (register : r < 2 ^ p.normal) (small : rest < 64) :
    r * 64 + rest < p.flag := by
  have := registers_flag p
  omega

theorem flag_clear (below : code < p.flag) : code &&& p.flag = 0 := by
  rw [flag_two_pow] at below ⊢
  simp [Nat.and_two_pow,Nat.testBit_lt_two_pow below]

theorem flag_set (inside : rest < p.flag) : (p.flag + rest) &&& p.flag ≠ 0 := by
  rw [flag_two_pow] at inside ⊢
  simp [Nat.and_two_pow,Nat.testBit_two_pow_add_eq,Nat.testBit_lt_two_pow inside]

theorem flag_raised (inside : rest < p.flag) : rest ^^^ p.flag = p.flag + rest := by
  rw [flag_two_pow] at inside ⊢
  have apart := Nat.two_pow_add_eq_or_of_lt inside 1
  rw [Nat.mul_one] at apart
  rw [apart]
  apply Nat.eq_of_testBit_eq
  intro i
  simp only [Nat.testBit_xor,Nat.testBit_or,Nat.testBit_two_pow]
  by_cases bit : max p.sparse (p.normal + rankBits) = i
  · simp [←bit,Nat.testBit_lt_two_pow inside]
  · simp [bit]

theorem flag_flipped (inside : rest < p.flag) : (p.flag + rest) ^^^ p.flag = rest := by
  rw [←flag_raised inside,Nat.xor_xor_cancel_right]

theorem codeOf_flagged (empty : x % 2 ^ p.extra = 0) (register : x / 2 ^ p.extra < 2 ^ p.normal)
    (small : r - p.extra < 64) :
    p.codeOf x r = p.flag + (x / 2 ^ p.extra * 64 + (r - p.extra)) := by
  have inside := flagged_inside register small
  simp only [codeOf,Nat.one_shiftLeft,empty,if_true,Nat.shiftRight_eq_div_pow]
  rw [Nat.or_assoc,←Nat.shiftLeft_add_eq_or_of_lt (show _ < 2 ^ rankBits from small),
    Nat.shiftLeft_eq,show 2 ^ rankBits = 64 from rfl]
  unfold flag at inside ⊢
  rw [←Nat.shiftLeft_add_eq_or_of_lt (by rwa [Nat.one_shiftLeft] at inside)]

theorem codeOf_plain (present : x % 2 ^ p.extra ≠ 0) : p.codeOf x r = x := by
  simp [codeOf,Nat.one_shiftLeft,present]

-- What the code of a hash looks like: the bucket where its lower bits tell the rank,
-- a flagged register and rest of the rank where they are zero.
inductive Encoded (p : Precisions) (hash : UInt64) : Prop where
  | plain (code : p.encode hash = index hash p.sparse)
      (present : index hash p.sparse % 2 ^ p.extra ≠ 0)
      (told : rank hash p.normal = rankOf (index hash p.sparse) p.extra)
  | flagged (code : p.encode hash = p.flag + (index hash p.normal * 64 + rank hash p.sparse))
      (empty : index hash p.sparse = index hash p.normal * 2 ^ p.extra)
      (kept : rank hash p.normal = p.extra + rank hash p.sparse)

theorem rank_sparse_lt (coded : Coded p) (hash : UInt64) : rank hash p.sparse < 64 := by
  have := rank_le hash (Nat.le_trans coded.bits (by decide : 32 ≤ 64))
  have := coded.low
  have := coded.finer
  omega

theorem index_normal (coded : Coded p) (hash : UInt64) :
    index hash p.sparse / 2 ^ p.extra = index hash p.normal := by
  rw [←Nat.shiftRight_eq_div_pow]
  exact index_shift hash coded.bits coded.finer

theorem index_normal_lt (coded : Coded p) (hash : UInt64) : index hash p.normal < 2 ^ p.normal :=
  index_lt hash coded.normal_bits

theorem encode_form (coded : Coded p) (hash : UInt64) : Encoded p hash := by
  have register := index_normal coded hash
  have split := rank_split hash coded.bits coded.finer
  change _ = if index hash p.sparse % 2 ^ p.extra = 0 then p.extra + _ else rankOf _ p.extra at split
  by_cases empty : index hash p.sparse % 2 ^ p.extra = 0
  · rw [if_pos empty] at split
    have rest : rank hash p.normal - p.extra = rank hash p.sparse := by omega
    refine .flagged ?_ ?_ split
    · rw [encode,codeOf_flagged empty (register ▸ index_normal_lt coded hash)
        (rest ▸ rank_sparse_lt coded hash),register,rest]
    · rw [←register,Nat.div_mul_cancel (Nat.dvd_of_mod_eq_zero empty)]
  · rw [if_neg empty] at split
    exact .plain (codeOf_plain empty) empty split

theorem bucket_plain (below : code < p.flag) : p.bucket code = code := if_pos (flag_clear below)

theorem bucket_flagged (register : r < 2 ^ p.normal) (small : rest < 64) :
    p.bucket (p.flag + (r * 64 + rest)) = r * 2 ^ p.extra := by
  have inside := flagged_inside register small
  rw [bucket,if_neg (flag_set inside),flag_flipped inside,Nat.shiftRight_eq_div_pow,Nat.shiftLeft_eq]
  congr 1
  change (r * 64 + rest) / 64 = r
  omega

theorem decode_plain (below : code < p.flag) :
    p.decode code = (code / 2 ^ p.extra,rankOf code p.extra) := by
  rw [decode,if_pos (flag_clear below),Nat.shiftRight_eq_div_pow]

-- The rank bits are those of the whole code, as the flag is a multiple of 64.
theorem decode_flagged (register : r < 2 ^ p.normal) (small : rest < 64) :
    p.decode (p.flag + (r * 64 + rest)) = (r,rest + p.extra) := by
  have inside := flagged_inside register small
  have upper : (r * 64 + rest) / 64 = r := by omega
  have lower : (p.flag + (r * 64 + rest)) % 64 = rest := by
    obtain ⟨n,multiple⟩ : 2 ^ rankBits ∣ p.flag := by
      rw [flag_two_pow]
      exact Nat.pow_dvd_pow 2 (Nat.le_trans (Nat.le_add_left _ _) (Nat.le_max_right _ _))
    have : p.flag = 64 * n := multiple
    omega
  rw [decode,if_neg (flag_set inside),flag_flipped inside,Nat.shiftRight_eq_div_pow,Nat.one_shiftLeft]
  change ((r * 64 + rest) / 64,(p.flag + (r * 64 + rest)) % 64 + p.extra) = _
  rw [upper,lower]

theorem index_sparse_flag (coded : Coded p) (hash : UInt64) : index hash p.sparse < p.flag :=
  Nat.lt_of_lt_of_le (index_lt hash coded.bits) (buckets_flag p)

theorem bucket_encode (coded : Coded p) (hash : UInt64) :
    p.bucket (p.encode hash) = index hash p.sparse := by
  cases encode_form coded hash with
  | plain code => rw [code,bucket_plain (index_sparse_flag coded hash)]
  | flagged code empty =>
    rw [code,bucket_flagged (index_normal_lt coded hash) (rank_sparse_lt coded hash),empty]

theorem decode_encode (coded : Coded p) (hash : UInt64) :
    p.decode (p.encode hash) = (index hash p.normal,rank hash p.normal) := by
  cases encode_form coded hash with
  | plain code _ told =>
    rw [code,decode_plain (index_sparse_flag coded hash),index_normal coded,told]
  | flagged code _ kept =>
    rw [code,decode_flagged (index_normal_lt coded hash) (rank_sparse_lt coded hash),kept,Nat.add_comm]

theorem encode_eq (coded : Coded p) (a b : UInt64) :
    p.encode a = p.encode b ↔ index a p.sparse = index b p.sparse ∧ rank a p.normal = rank b p.normal := by
  constructor
  · intro same
    have buckets := congrArg p.bucket same
    have entries := congrArg p.decode same
    rw [bucket_encode coded,bucket_encode coded] at buckets
    rw [decode_encode coded,decode_encode coded] at entries
    exact ⟨buckets,congrArg Prod.snd entries⟩
  · rintro ⟨bucket,rank⟩
    rw [encode,encode,bucket,rank]

theorem encode_le (coded : Coded p) {a b : UInt64} (same : index a p.sparse = index b p.sparse) :
    p.encode a ≤ p.encode b ↔ rank a p.normal ≤ rank b p.normal := by
  by_cases empty : index b p.sparse % 2 ^ p.extra = 0
  · have register := index_agrees coded.bits same coded.finer
    cases encode_form coded a with
    | plain _ present => exact absurd (same ▸ empty) present
    | flagged first _ left =>
      cases encode_form coded b with
      | plain _ present => exact absurd empty present
      | flagged second _ right => rw [first,second,left,right,register]; omega
  · have equal : rank a p.normal = rank b p.normal := by
      cases encode_form coded a with
      | flagged _ zero => rw [same] at zero; exact absurd (zero ▸ Nat.mul_mod_left _ _) empty
      | plain _ _ left =>
        cases encode_form coded b with
        | flagged _ zero => exact absurd (zero ▸ Nat.mul_mod_left _ _) empty
        | plain _ _ right => rw [left,right,same]
    rw [(encode_eq coded a b).mpr ⟨same,equal⟩,equal]
    simp

theorem isCode_plain (below : code < p.flag) :
    p.isCode code = true ↔ code < 2 ^ p.sparse ∧ code % 2 ^ p.extra ≠ 0 := by
  simp [isCode,flag_clear below,buckets,Nat.one_shiftLeft]

theorem isCode_flagged (register : r < 2 ^ p.normal) (small : rest < 64) :
    p.isCode (p.flag + (r * 64 + rest)) = true ↔ 0 < rest ∧ rest + p.extra ≤ 65 - p.normal := by
  have inside := flagged_inside register small
  have upper : (r * 64 + rest) / 64 = r := by omega
  have lower : (r * 64 + rest) % 64 = rest := by omega
  rw [isCode,if_neg (flag_set inside)]
  simp only [flag_flipped inside,Nat.shiftRight_eq_div_pow,Nat.one_shiftLeft,registers,Bool.and_eq_true,
    decide_eq_true_eq,show 2 ^ rankBits = 64 from rfl,upper,lower,register,true_and]

theorem flagged_parts (accepted : p.isCode code = true) (above : ¬code < p.flag) :
    ∃ r rest, r < 2 ^ p.normal ∧ rest < 64 ∧ code = p.flag + (r * 64 + rest) := by
  unfold isCode at accepted
  split at accepted
  · have := buckets_flag p
    simp [buckets,Nat.one_shiftLeft] at accepted
    omega
  · simp [registers,Nat.one_shiftLeft,Nat.shiftRight_eq_div_pow,rankBits] at accepted
    have register := accepted.1.1
    have room := registers_flag p
    have inside : code ^^^ p.flag < p.flag := by omega
    refine ⟨(code ^^^ p.flag) / 64,(code ^^^ p.flag) % 64,register,Nat.mod_lt _ (by decide),?_⟩
    rw [Nat.div_add_mod',←flag_raised inside,Nat.xor_xor_cancel_right]

theorem isCode_encode (coded : Coded p) (hash : UInt64) : p.isCode (p.encode hash) = true := by
  cases encode_form coded hash with
  | plain code present =>
    rw [code]
    exact (isCode_plain (index_sparse_flag coded hash)).mpr ⟨index_lt hash coded.bits,present⟩
  | flagged code =>
    rw [code]
    refine (isCode_flagged (index_normal_lt coded hash) (rank_sparse_lt coded hash)).mpr ⟨rank_pos hash _,?_⟩
    have := rank_le hash (Nat.le_trans coded.bits (by decide : 32 ≤ 64))
    have := coded.normal_extra
    have := coded.finest
    omega

theorem exists_encode (coded : Coded p) (accepted : p.isCode code = true) :
    ∃ hash, p.encode hash = code := by
  have width := coded.normal_extra
  have finest := coded.finest
  by_cases below : code < p.flag
  · obtain ⟨inside,present⟩ := (isCode_plain below).mp accepted
    obtain ⟨hash,same,_⟩ := exists_hash coded.bits inside (by decide : 0 < 1) (by omega)
    refine ⟨hash,?_⟩
    cases encode_form coded hash with
    | plain form => exact form.trans same
    | flagged _ zero => exact absurd (same ▸ zero ▸ Nat.mul_mod_left _ _) present
  · obtain ⟨r,rest,register,small,rfl⟩ := flagged_parts accepted below
    obtain ⟨positive,room⟩ := (isCode_flagged register small).mp accepted
    have inside : r * 2 ^ p.extra < 2 ^ p.sparse := by
      rw [←width,Nat.pow_add]
      exact Nat.mul_lt_mul_of_pos_right register (Nat.two_pow_pos _)
    obtain ⟨hash,same,known⟩ := exists_hash coded.bits inside positive (by omega)
    have normal : index hash p.normal = r := by
      rw [←index_normal coded,same,Nat.mul_div_cancel _ (Nat.two_pow_pos _)]
    refine ⟨hash,?_⟩
    cases encode_form coded hash with
    | plain _ present => exact absurd (same ▸ Nat.mul_mod_left _ _) present
    | flagged form => rw [form,normal,known]

theorem isCode_exact (coded : Coded p) : p.isCode code = true ↔ ∃ hash, p.encode hash = code :=
  ⟨exists_encode coded,fun ⟨hash,same⟩ => same ▸ isCode_encode coded hash⟩

theorem decode_le (coded : Coded p) (first : p.isCode x = true) (second : p.isCode y = true)
    (same : p.bucket x = p.bucket y) : x ≤ y ↔ (p.decode x).2 ≤ (p.decode y).2 := by
  obtain ⟨a,rfl⟩ := exists_encode coded first
  obtain ⟨b,rfl⟩ := exists_encode coded second
  rw [bucket_encode coded,bucket_encode coded] at same
  rw [encode_le coded same,decode_encode coded,decode_encode coded]

theorem encode_lt (coded : Coded p) (hash : UInt64) : p.encode hash < UInt32.size := by
  have size : 2 ^ 30 + 2 ^ 30 ≤ UInt32.size := by decide
  have top := flag_bound coded
  cases encode_form coded hash with
  | plain => have := index_sparse_flag coded hash; omega
  | flagged code =>
    have := flagged_inside (index_normal_lt coded hash) (rank_sparse_lt coded hash)
    omega

-- Nothing of another bucket lies between two codes of one.
theorem bucket_between (first : p.isCode x = true) (second : p.isCode y = true) (third : p.isCode z = true)
    (lower : x ≤ y) (upper : y ≤ z) (same : p.bucket x = p.bucket z) : p.bucket y = p.bucket x := by
  by_cases below : x < p.flag
  · have present := ((isCode_plain below).mp first).2
    rw [bucket_plain below] at same
    by_cases last : z < p.flag
    · rw [bucket_plain last] at same
      have : y = x := by omega
      rw [this]
    · obtain ⟨r,rest,register,small,rfl⟩ := flagged_parts third last
      rw [bucket_flagged register small] at same
      exact absurd (same ▸ Nat.mul_mod_left _ _) present
  · obtain ⟨r,rest,register,small,rfl⟩ := flagged_parts first below
    obtain ⟨r',rest',register',small',rfl⟩ := flagged_parts second (by omega)
    obtain ⟨r'',rest'',register'',small'',rfl⟩ := flagged_parts third (by omega)
    rw [bucket_flagged register small,bucket_flagged register'' small''] at same
    have registers := Nat.eq_of_mul_eq_mul_right (Nat.two_pow_pos _) same
    have : r' = r := by omega
    rw [bucket_flagged register' small',bucket_flagged register small,this]

-- Codes are faithful: a code tells the bucket and the register with its rank and nothing
-- else of the hash, and whatever is taken for a code is the code of some hash.
theorem codes_faithful (coded : Coded p) :
    (∀ hash, p.isCode (p.encode hash) = true ∧ p.encode hash < UInt32.size ∧
      p.decode (p.encode hash) = (index hash p.normal,rank hash p.normal) ∧
      p.bucket (p.encode hash) = index hash p.sparse) ∧
    (∀ code, p.isCode code = true ↔ ∃ hash, p.encode hash = code) ∧
    ∀ a b, p.encode a = p.encode b ↔ index a p.sparse = index b p.sparse ∧ rank a p.normal = rank b p.normal := by
  refine ⟨?_,fun code => isCode_exact coded,encode_eq coded⟩
  intro hash
  exact ⟨isCode_encode coded hash,encode_lt coded hash,decode_encode coded hash,bucket_encode coded hash⟩

theorem flagged_codes_only :
    let p : Precisions := ⟨10,10⟩
    Coded p ∧ p.encode 0xffc0000000000000 = 2 ^ 16 + 1023 * 64 + 55 ∧
      p.decode (2 ^ 16 + 1023 * 64 + 55) = (1023,55) ∧ ¬∃ hash, p.encode hash = 2 ^ 16 + 1023 * 64 + 56 := by
  have coded : Coded ⟨10,10⟩ := by decide
  obtain ⟨encoded,exact_image,_⟩ := codes_faithful coded
  have code : Precisions.encode ⟨10,10⟩ 0xffc0000000000000 = 2 ^ 16 + 1023 * 64 + 55 := by decide
  obtain ⟨_,_,decoded,_⟩ := encoded 0xffc0000000000000
  refine ⟨coded,code,?_,?_⟩
  · rw [←code,decoded]
    decide
  · rw [←exact_image]
    decide

theorem recode_encode (coded : Coded p) (coarser : Coarser target p) (hash : UInt64) :
    p.recode target (p.encode hash) = target.encode hash := by
  unfold recode
  split
  · rename_i same; rw [same]
  · have normal := coarsenRank_hash hash coded.normal_bits coarser.normal
    rw [decode_encode coded,bucket_encode coded,index_shift hash coded.bits coarser.sparse]
    simp only [normal]
    rfl

theorem recode_isCode (coded : Coded p) (wanted : Coded target) (coarser : Coarser target p)
    (valid : p.isCode code = true) : target.isCode (p.recode target code) = true := by
  obtain ⟨hash,rfl⟩ := exists_encode coded valid
  rw [recode_encode coded coarser]
  exact isCode_encode wanted hash

theorem recode_bucket (coded : Coded p) (wanted : Coded target) (coarser : Coarser target p)
    (valid : p.isCode code = true) :
    target.bucket (p.recode target code) = p.bucket code >>> (p.sparse - target.sparse) := by
  obtain ⟨hash,rfl⟩ := exists_encode coded valid
  rw [recode_encode coded coarser,bucket_encode wanted,bucket_encode coded,
    index_shift hash coded.bits coarser.sparse]

theorem recode_recode {mid : Precisions} (coded : Coded p) (between : Coded mid) (coarser : Coarser mid p)
    (further : Coarser target mid) (valid : p.isCode code = true) :
    mid.recode target (p.recode mid code) = p.recode target code := by
  obtain ⟨hash,rfl⟩ := exists_encode coded valid
  rw [recode_encode coded coarser,recode_encode between further,recode_encode coded (further.trans coarser)]

def codesOf (p : Precisions) (bucket : Nat) : Set Nat := {code | p.isCode code = true ∧ p.bucket code = bucket}

theorem recode_mono (coded : Coded p) (wanted : Coded target) (coarser : Coarser target p) (bucket : Nat) :
    MonotoneOn (p.recode target) (p.codesOf bucket) := by
  rintro x ⟨first,here⟩ y ⟨second,there⟩ below
  obtain ⟨a,rfl⟩ := exists_encode coded first
  obtain ⟨b,rfl⟩ := exists_encode coded second
  rw [bucket_encode coded] at here there
  have same : index a p.sparse = index b p.sparse := here.trans there.symm
  have ranks : rank a p.normal ≤ rank b p.normal := (encode_le coded same).mp below
  rw [recode_encode coded coarser,recode_encode coded coarser,
    encode_le wanted (index_agrees coded.bits same coarser.sparse)]
  exact rank_agrees coded.normal_bits (index_agrees coded.bits same coded.finer) ranks coarser.normal

-- Brought to a coarser pair, the code of a hash is the one that the hash has there. So codes
-- stay codes, two steps are one, and the highest code of a bucket stays the highest.
theorem recode_faithful (coded : Coded p) (wanted : Coded target) (coarser : Coarser target p) :
    (∀ hash, p.recode target (p.encode hash) = target.encode hash) ∧
    (∀ code, p.isCode code = true → target.isCode (p.recode target code) = true) ∧
    (∀ mid, Coded mid → Coarser mid p → Coarser target mid → ∀ code, p.isCode code = true →
      mid.recode target (p.recode mid code) = p.recode target code) ∧
    ∀ bucket, MonotoneOn (p.recode target) (p.codesOf bucket) ∧
      ∀ codes ⊆ p.codesOf bucket, ∀ top, IsGreatest codes top →
        p.recode target '' codes ⊆ target.codesOf (bucket >>> (p.sparse - target.sparse)) ∧
        IsGreatest (p.recode target '' codes) (p.recode target top) := by
  refine ⟨recode_encode coded coarser,fun _ => recode_isCode coded wanted coarser,?_,?_⟩
  · intro mid between first second code valid
    exact recode_recode coded between first second valid
  · intro bucket
    have ordered := recode_mono coded wanted coarser bucket
    refine ⟨ordered,?_⟩
    intro codes inside top greatest
    refine ⟨?_,(ordered.mono inside).map_isGreatest greatest⟩
    rintro _ ⟨code,member,rfl⟩
    obtain ⟨valid,here⟩ := inside member
    exact ⟨recode_isCode coded wanted coarser valid,here ▸ recode_bucket coded wanted coarser valid⟩

theorem narrowed_codes_faithful :
    let p : Precisions := ⟨12,20⟩
    let mid : Precisions := ⟨11,18⟩
    let target : Precisions := ⟨10,11⟩
    Coded p ∧ Coded mid ∧ Coded target ∧ Coarser mid p ∧ Coarser target mid ∧ Coarser target p ∧
      p.encode 0x8000000000000 = 2 ^ 7 ∧ p.recode target (2 ^ 7) = target.encode 0x8000000000000 ∧
      mid.recode target (p.recode mid (2 ^ 7)) = p.recode target (2 ^ 7) ∧
      {p.encode 5,p.encode 1} ⊆ p.codesOf 0 ∧ IsGreatest {p.encode 5,p.encode 1} (p.encode 1) ∧
      IsGreatest (p.recode target '' {p.encode 5,p.encode 1}) (p.recode target (p.encode 1)) := by
  have coded : Coded ⟨12,20⟩ := by decide
  have between : Coded ⟨11,18⟩ := by decide
  have wanted : Coded ⟨10,11⟩ := by decide
  have first : Coarser ⟨11,18⟩ ⟨12,20⟩ := by decide
  have second : Coarser ⟨10,11⟩ ⟨11,18⟩ := by decide
  have coarser : Coarser ⟨10,11⟩ ⟨12,20⟩ := by decide
  have code : Precisions.encode ⟨12,20⟩ 0x8000000000000 = 2 ^ 7 := by decide
  obtain ⟨encoded,_,through,greatest⟩ := recode_faithful coded wanted coarser
  have inside : {Precisions.encode ⟨12,20⟩ 5,Precisions.encode ⟨12,20⟩ 1} ⊆ Precisions.codesOf ⟨12,20⟩ 0 := by
    rintro _ (rfl | rfl)
    · exact ⟨by decide,by decide⟩
    · exact ⟨by decide,by decide⟩
  have top : IsGreatest {Precisions.encode ⟨12,20⟩ 5,Precisions.encode ⟨12,20⟩ 1} (Precisions.encode ⟨12,20⟩ 1) := by
    refine ⟨.inr rfl,?_⟩
    rintro _ (rfl | rfl)
    · decide
    · exact Nat.le_refl _
  exact ⟨coded,between,wanted,first,second,coarser,code,code ▸ encoded 0x8000000000000,
    through _ between first second _ (by decide),inside,top,((greatest 0).2 _ inside _ top).2⟩

end DistinctCount.Precisions
