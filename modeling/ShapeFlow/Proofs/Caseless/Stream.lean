import Mathlib.Data.List.Forall2
import ShapeFlow.Proofs.Caseless
import ShapeFlow.Proofs.HashTable

/-!
Keys and the bytes by which a hasher knows them. Two keys are equal exactly if they feed the same bytes,
since folding the case of the ASCII letters is the same on the characters of a name and on the bytes of its
UTF-8 code. So a hash table by key does what a table does, with any hasher.
-/

namespace ShapeFlow.Caseless

/-! ### Characters and bytes -/

theorem isUpper_iff {c : Char} : c.isUpper = true ↔ 65 ≤ c.toNat ∧ c.toNat ≤ 90 := by
  change decide ('A'.val ≤ c.val ∧ c.val ≤ 'Z'.val) = true ↔ _
  rw [decide_eq_true_iff, UInt32.le_iff_toNat_le, UInt32.le_iff_toNat_le]
  rfl

theorem toNat_toLower (c : Char) :
    c.toLower.toNat = if 65 ≤ c.toNat ∧ c.toNat ≤ 90 then c.toNat + 32 else c.toNat := by
  have hupper : (c.val ≥ 'A'.val ∧ c.val ≤ 'Z'.val) ↔ 65 ≤ c.toNat ∧ c.toNat ≤ 90 :=
    decide_eq_true_iff.symm.trans isUpper_iff
  unfold Char.toLower
  split
  · next h =>
    have hrange := hupper.1 h
    rw [if_pos hrange]
    change (c.val + 32).toNat = _
    rw [UInt32.toNat_add, Nat.mod_eq_of_lt]
    · rfl
    · change c.toNat + 32 < 2 ^ 32
      omega
  · next h => rw [if_neg (mt hupper.2 h)]

theorem toNat_lowerByte (byte : UInt8) : (lowerByte byte).toNat =
    if 65 ≤ byte.toNat ∧ byte.toNat ≤ 90 then byte.toNat + 32 else byte.toNat := by
  simp only [lowerByte, UInt8.le_iff_toNat_le]
  change (if 65 ≤ byte.toNat ∧ byte.toNat ≤ 90 then byte + 32 else byte).toNat = _
  split
  · next h =>
    rw [UInt8.toNat_add, Nat.mod_eq_of_lt]
    · rfl
    · change byte.toNat + 32 < 256
      omega
  · rfl

theorem utf8EncodeChar_of_ascii {c : Char} (h : c.toNat < 128) :
    String.utf8EncodeChar c = [UInt8.ofNat c.toNat] :=
  if_pos (Nat.le_of_lt_succ h)

/-- A byte of a longer code is no ASCII character, and no byte of a code is the closing one. -/
theorem byte_bounds {c : Char} (hc : ¬c.toNat < 128) {byte : UInt8}
    (h : byte ∈ String.utf8EncodeChar c) : 128 ≤ byte.toNat ∧ byte.toNat < 248 := by
  have hpart : ∀ {digit count mark : Nat}, 128 ≤ mark → count + mark < 248 →
      byte = UInt8.ofNat (digit % (count + 1) + mark) → 128 ≤ byte.toNat ∧ byte.toNat < 248 := by
    rintro digit count mark hmark hend rfl
    have hdigit : digit % (count + 1) < count + 1 := Nat.mod_lt _ count.succ_pos
    rw [UInt8.toNat_ofNat']
    omega
  have hlong : ¬c.val.toNat ≤ 127 := fun hle => hc (Nat.lt_succ_of_le hle)
  unfold String.utf8EncodeChar at h
  rw [if_neg hlong] at h
  split at h
  · simp only [List.mem_cons, List.not_mem_nil, or_false] at h
    rcases h with h | h <;> exact hpart (by decide) (by decide) h
  · split at h
    · simp only [List.mem_cons, List.not_mem_nil, or_false] at h
      rcases h with h | h | h <;> exact hpart (by decide) (by decide) h
    · simp only [List.mem_cons, List.not_mem_nil, or_false] at h
      rcases h with h | h | h | h <;> exact hpart (by decide) (by decide) h

/-- Folding the case of a character folds the bytes of its code. -/
theorem utf8EncodeChar_toLower (c : Char) :
    String.utf8EncodeChar c.toLower = (String.utf8EncodeChar c).map lowerByte := by
  by_cases hascii : c.toNat < 128
  · have hcode : (UInt8.ofNat c.toNat).toNat = c.toNat := by
      rw [UInt8.toNat_ofNat', Nat.mod_eq_of_lt (by omega)]
    have hlower : c.toLower.toNat = (lowerByte (UInt8.ofNat c.toNat)).toNat := by
      rw [toNat_toLower, toNat_lowerByte, hcode]
    have hsmall : c.toLower.toNat < 128 := by
      rw [toNat_toLower]
      split <;> omega
    rw [utf8EncodeChar_of_ascii hascii, utf8EncodeChar_of_ascii hsmall, hlower, UInt8.ofNat_toNat]
    rfl
  · have hsame : c.toLower = c := by
      rw [← Char.toNat_inj, toNat_toLower, if_neg (by omega)]
    rw [hsame]
    refine (List.map_id _).symm.trans (List.map_congr_left fun byte hbyte => ?_)
    have hbounds := byte_bounds hascii hbyte
    rw [← UInt8.toNat_inj, toNat_lowerByte, if_neg (by omega), id]

/-! ### Names and their bytes -/

def bytes (name : String) : List UInt8 :=
  name.toUTF8.data.toList

theorem bytes_eq (name : String) : bytes name = name.toList.flatMap String.utf8EncodeChar := by
  rw [bytes, String.toUTF8_eq_toByteArray, ← String.utf8Encode_toList, List.utf8Encode,
    List.toList_data_toByteArray]

theorem bytes_inj {a b : String} : bytes a = bytes b ↔ a = b :=
  ⟨fun h => String.toByteArray_inj.1 (ByteArray.ext (Array.toList_inj.1 h)), congrArg bytes⟩

theorem bytes_lower (name : String) : bytes (lower name) = (bytes name).map lowerByte := by
  simp only [bytes_eq, lower, String.toList_ofList, List.map_flatMap, List.flatMap_map,
    utf8EncodeChar_toLower]

/-- The closing byte is no byte of a name. -/
theorem toNat_lt_of_mem_bytes {name : String} {byte : UInt8} (h : byte ∈ bytes name) :
    byte.toNat < 248 := by
  rw [bytes_eq, List.mem_flatMap] at h
  obtain ⟨c, -, hbyte⟩ := h
  by_cases hascii : c.toNat < 128
  · rw [utf8EncodeChar_of_ascii hascii, List.mem_singleton] at hbyte
    rw [hbyte, UInt8.toNat_ofNat']
    omega
  · exact (byte_bounds hascii hbyte).2

theorem eq_iff_bytes {a b : String} :
    eq a b = true ↔ (bytes a).map lowerByte = (bytes b).map lowerByte := by
  rw [eq, beq_iff_eq, ← bytes_inj, bytes_lower, bytes_lower]

/-- The comparison byte by byte. -/
def eqBytes (a b : List UInt8) : Bool :=
  a.length == b.length && (a.zip b).all fun pair => lowerByte pair.1 == lowerByte pair.2

theorem eqBytes_iff {a b : List UInt8} : eqBytes a b = true ↔ a.map lowerByte = b.map lowerByte := by
  induction a generalizing b with
  | nil => cases b <;> simp [eqBytes]
  | cons first rest ih =>
    cases b with
    | nil => simp [eqBytes]
    | cons other others =>
      have ih := @ih others
      simp only [eqBytes, Bool.and_eq_true, beq_iff_eq, List.length_cons, List.zip_cons_cons,
        List.all_cons, List.map_cons, List.cons.injEq, Nat.add_right_cancel_iff] at ih ⊢
      rw [← ih]
      tauto

/-- Equal characters, or one letter of the ASCII alphabet in its two cases. -/
def SameLetter (c d : Char) : Prop :=
  c = d ∨ (c.isUpper = true ∧ d.toNat = c.toNat + 32) ∨ (d.isUpper = true ∧ c.toNat = d.toNat + 32)

theorem sameLetter_iff {c d : Char} : SameLetter c d ↔ c.toLower = d.toLower := by
  rw [SameLetter, ← Char.toNat_inj, ← Char.toNat_inj, toNat_toLower, toNat_toLower, isUpper_iff,
    isUpper_iff]
  split <;> split <;> omega

theorem eq_iff_forall₂ {a b : String} :
    eq a b = true ↔ List.Forall₂ SameLetter a.toList b.toList := by
  have hletter : SameLetter = fun c d => c.toLower = d.toLower := by
    funext c d
    exact propext sameLetter_iff
  rw [hletter, eq, beq_iff_eq, lower, lower, String.ofList_inj, ← List.forall₂_eq_eq_eq,
    List.forall₂_map_left_iff, List.forall₂_map_right_iff]

/-! ### Streams -/

namespace Key

variable {a b : Key}

theorem stream_eq (key : Key) : key.stream = (bytes key.spelling).map lowerByte ++ [0xff] := rfl

theorem stream_inj : a.stream = b.stream ↔ (a == b) = true := by
  rw [stream_eq, stream_eq, List.append_left_inj]
  exact eq_iff_bytes.symm

/-- The closing byte stands at the end of a stream only. -/
theorem stream_prefix_iff : a.stream <+: b.stream ↔ a.stream = b.stream := by
  refine ⟨fun h => ?_, fun h => h ▸ List.prefix_rfl⟩
  rw [stream_eq b, List.prefix_concat_iff] at h
  refine h.resolve_right fun hprefix => ?_
  have hclosing : 0xff ∈ (bytes b.spelling).map lowerByte :=
    hprefix.subset (List.mem_append_right _ List.mem_cons_self)
  rw [← bytes_lower] at hclosing
  exact absurd (toNat_lt_of_mem_bytes hclosing) (by decide)

end Key

/-- A way to hash: what a hasher has at the start, what it makes of a byte, and what it ends with. -/
structure Hasher where
  State : Type
  start : State
  write : UInt8 → State → State
  finish : State → Nat

namespace Hasher

variable (hasher : Hasher)

/-- A key is fed byte by byte, each of them folded, and closed. -/
def feed (key : Key) : StateM hasher.State Unit := do
  (bytes key.spelling).forM fun byte => modify (hasher.write (lowerByte byte))
  modify (hasher.write 0xff)

def hash (key : Key) : Nat :=
  hasher.finish ((hasher.feed key).run hasher.start).2

theorem run_feed (key : Key) (state : hasher.State) :
    (hasher.feed key).run state =
      ((), key.stream.foldl (fun state byte => hasher.write byte state) state) := by
  rw [Key.stream_eq, List.foldl_append]
  unfold feed
  generalize bytes key.spelling = rest
  induction rest generalizing state with
  | nil => rfl
  | cons byte rest ih => exact ih (hasher.write (lowerByte byte) state)

/-- Keys that are equal have the same hash. -/
theorem coherent_hash : HashTable.Coherent hasher.hash := by
  intro a b hab
  rw [hash, hash, run_feed, run_feed, Key.stream_inj.2 hab]

end Hasher

/-! ### Hash tables by name -/

/-- The last of the positions at which a name stands, in any spelling. -/
def lastPosition? (names : List String) (name : String) : Option Nat :=
  ((List.range names.length).filter fun position => names[position]?.any (eq · name)).getLast?

theorem lastPosition?_eq (names : List String) (name : String) :
    lastPosition? names name = latest? names.zipIdx name := by
  induction names using List.reverseRecOn with
  | nil => rfl
  | append_singleton before last ih =>
    have hbefore : ((List.range before.length).filter fun position =>
        (before ++ [last])[position]?.any (eq · name)) =
        (List.range before.length).filter fun position => before[position]?.any (eq · name) :=
      List.filter_congr fun position hposition => by
        rw [List.getElem?_append_left (List.mem_range.1 hposition)]
    rw [lastPosition?, List.length_append, List.length_singleton, List.range_succ, List.filter_append,
      hbefore, List.zipIdx_append, List.zipIdx_singleton, latest?_append_singleton, ← ih, lastPosition?]
    cases hlast : eq last name <;> simp [hlast]

/-- Names stored in turn with their positions: what each of them replaces, and the table in the end. -/
def storePositions (hasher : Hasher) (growth : Nat → Nat → Nat) (size : Nat) (names : List String) :
    List (Option Nat) × HashTable Key Nat :=
  (HashTable.empty size).insertAll hasher.hash growth (names.zipIdx.map keyed)

theorem take_zipIdx (names : List String) (position : Nat) :
    names.zipIdx.take position = (names.take position).zipIdx := by
  refine List.ext_getElem? fun other => ?_
  rw [List.getElem?_take, List.getElem?_zipIdx, List.getElem?_zipIdx, List.getElem?_take]
  split <;> rfl

/-- Each name replaces the position of the one before it in its class. -/
theorem fst_storePositions (hasher : Hasher) (growth : Nat → Nat → Nat) (size : Nat)
    (names : List String) : (storePositions hasher growth size names).1 =
      names.mapIdx fun position name => lastPosition? (names.take position) name := by
  rw [storePositions, (HashTable.spreads_insertAll hasher.coherent_hash growth size _).1]
  refine List.ext_getElem? fun position => ?_
  rw [List.getElem?_mapIdx, List.getElem?_mapIdx, List.getElem?_map, List.getElem?_zipIdx,
    Option.map_map, Option.map_map]
  refine congrArg (Option.map · names[position]?) (funext fun name => ?_)
  rw [Function.comp, Function.comp, ← List.map_take, take_zipIdx, lastPosition?_eq]
  exact Table.get?_ofAdditions _ name

theorem spreads_storePositions (hasher : Hasher) (growth : Nat → Nat → Nat) (size : Nat)
    (names : List String) : HashTable.Spreads hasher.hash (.ofAdditions names.zipIdx)
      (storePositions hasher growth size names).2 :=
  (HashTable.spreads_insertAll hasher.coherent_hash growth size _).2

/-- What a key feeds to a hasher, one byte after the other, is its stream. Keys are equal exactly if they
feed the same bytes, which is if their names are equal but for the case of ASCII letters, and no key feeds
the beginning of what another one feeds. So names that are stored with their positions in a hash table, with
any hasher and any growth, leave one entry for each class of equal names, with the first spelling and the
last position, and each of them replaces the position of the one before it in its class. -/
theorem Key.coherent :
    (∀ (hasher : Hasher) (key : Key) (state : hasher.State),
      (hasher.feed key).run state = ((), key.stream.foldl (fun state byte => hasher.write byte state) state) ∧
      hasher.hash key =
        hasher.finish (key.stream.foldl (fun state byte => hasher.write byte state) hasher.start)) ∧
    Equivalence (fun a b : Key => (a == b) = true) ∧
    (∀ a b : Key,
      (a == b) = eqBytes (bytes a.spelling) (bytes b.spelling) ∧
      ((a == b) = true ↔ lower a.spelling = lower b.spelling) ∧
      ((a == b) = true ↔ List.Forall₂ SameLetter a.spelling.toList b.spelling.toList) ∧
      ((a == b) = true ↔ a.stream = b.stream) ∧
      (a.stream <+: b.stream ↔ a.stream = b.stream)) ∧
    ∀ (hasher : Hasher) (growth : Nat → Nat → Nat) (size : Nat) (names : List String),
      let stored := storePositions hasher growth size names
      stored.1 = names.mapIdx (fun position name => lastPosition? (names.take position) name) ∧
      stored.2.entries.Perm ((firstSpellings names).filterMap fun name =>
        (lastPosition? names name).map (⟨name⟩, ·)) ∧
      ∀ name, stored.2.get? hasher.hash ⟨name⟩ = lastPosition? names name := by
  refine ⟨fun hasher key state => ⟨hasher.run_feed key state, ?_⟩, ⟨fun _ => BEq.rfl, BEq.symm, BEq.trans⟩,
    fun a b => ?_, fun hasher growth size names => ?_⟩
  · rw [Hasher.hash, Hasher.run_feed]
  · have hlower : (a == b) = true ↔ lower a.spelling = lower b.spelling := by
      rw [Key.beq_eq, beq_iff_eq]
    refine ⟨?_, hlower, eq_iff_forall₂, Key.stream_inj.symm, Key.stream_prefix_iff⟩
    rw [Bool.eq_iff_iff, eqBytes_iff]
    exact eq_iff_bytes
  · have hspreads := spreads_storePositions hasher growth size names
    refine ⟨fst_storePositions hasher growth size names, ?_, fun name => ?_⟩
    · have hentries := Table.entries_ofAdditions names.zipIdx
      simp only [List.zipIdx_map_fst, ← lastPosition?_eq] at hentries
      exact hentries ▸ hspreads.perm_entries
    · rw [hspreads.get?_eq hasher.coherent_hash, lastPosition?_eq]
      exact Table.get?_ofAdditions names.zipIdx name

end ShapeFlow.Caseless
