import Osrm.Extractor.EdgeOrder
import Mathlib.Algebra.BigOperators.Group.List
import Mathlib.Algebra.Order.Ring.Nat

/-!
# The street name table

`ExtractionContainers` collects the strings of every way in `name_char_data` and their starts in
`name_offsets` (`unsigned`). The constructor (`extraction_containers.cpp:108-120`) starts with four
empty strings, the name, destination, pronunciation and ref of the empty street, and the total
length sentinel, which is where the next string starts. `extractor_callbacks.cpp`, which appends the
strings of a way, is not in this tree: `NameData.pushName` appends one string as that sentinel
comment describes. `WriteCharData` (`extraction_containers.cpp:152-192`) turns the offsets into
lengths in place, pops the sentinel as the total length, builds a `util::RangeTable` from the
lengths and writes it, the total and the chars through an 8000-byte buffer. The facade's
`GetNameForID` (`shared_datafacade.hpp:690-708`) asks the loaded table for the range of an id and
copies it; `GetDestinationsForID`, `GetPronunciationForID` and `GetRefForID` (`:710-735`) read the
strings stored after a street's name.

`util::RangeTable` and the datastore that loads the file are not in this tree either.
`RangeTable.Represents` is the part of the table's contract that `GetNameForID` reads, for lengths
below 256: the table keeps lengths in bytes, which the comment in `GetRefForID` calls the street
length limit of 255. Characters are `char`s, naturals here as in `nameOf`.

* `writeCharData_spec`: for strings whose chars fit the `unsigned` offsets, the file holds their
  lengths, their total and their chars.
* `getNameForID_roundTrip`: read back through any table that represents the written lengths,
  every id returns its string, which is also the name `CmpEdgeByInternalSourceTargetAndName`
  compared.
* `pushNames_roundTrip`: over the strings the extractor appends after the constructor, each is read
  back at its id, and the three accessors of the invalid id `UINT_MAX` wrap around onto the
  constructor's empty strings.
-/

namespace Osrm.Extractor

/-- `ExtractionContainers::name_char_data` and `name_offsets`. -/
structure NameData where
  nameCharData : List Nat
  nameOffsets : List Nat
  deriving DecidableEq, Repr

/-- The constructor: four empty strings, then the total length sentinel. -/
def NameData.init : NameData := ⟨[], [0, 0, 0, 0, 0]⟩

/-- How a string is appended: its chars, then its end as the new sentinel, stored `unsigned`. -/
def NameData.pushName (data : NameData) (name : List Nat) : NameData :=
  ⟨data.nameCharData ++ name,
    data.nameOffsets ++ [(data.nameCharData.length + name.length) % 2 ^ 32]⟩

/-- The in-place loop of `WriteCharData`: every offset but the last becomes the next one minus
itself, in `unsigned` arithmetic, before the next one is rewritten; the sentinel stays. -/
def offsetsToLengths : List Nat → List Nat
  | current :: next :: rest => (next + 2 ^ 32 - current) % 2 ^ 32 :: offsetsToLengths (next :: rest)
  | rest => rest

def writeBlockBufferSize : Nat := 8000

/-- The loop that writes `name_char_data` through `write_buffer`, each full buffer at once, and
the last `file_stream.write(write_buffer, buffer_len)`: what reaches the stream after `written`,
with the first `buffer_len` entries of the buffer in `buffer`. -/
def writeChars (written buffer : List Nat) : List Nat → List Nat
  | [] => written ++ buffer
  | char :: rest =>
    let buffer := buffer ++ [char]
    if buffer.length ≥ writeBlockBufferSize then writeChars (written ++ buffer) [] rest
    else writeChars written buffer rest

/-- What `WriteCharData` writes: the lengths the `RangeTable` is built from, the total length and
the chars. -/
structure NamesFile where
  nameLengths : List Nat
  totalLength : Nat
  nameCharList : List Nat
  deriving DecidableEq, Repr

/-- `WriteCharData`; `none` where `name_offsets.back()` reads an empty vector. -/
def writeCharData (data : NameData) : Option NamesFile := do
  let lengths := offsetsToLengths data.nameOffsets
  let totalLength ← lengths.getLast?
  pure ⟨lengths.dropLast, totalLength, writeChars [] [] data.nameCharData⟩

/-! ## The strings a table holds -/

/-- The starts of strings laid out one after the other from `start`, then the end of the last one
as the sentinel. -/
def runningOffsets : Nat → List (List Nat) → List Nat
  | start, [] => [start]
  | start, name :: names => start :: runningOffsets (start + name.length) names

/-- `data` holds `names` in id order: their chars one after the other, and their starts. -/
structure NameData.Encodes (data : NameData) (names : List (List Nat)) : Prop where
  chars : data.nameCharData = names.flatten
  offsets : data.nameOffsets = runningOffsets 0 names

theorem NameData.encodes_init : NameData.init.Encodes [[], [], [], []] := ⟨rfl, rfl⟩

theorem runningOffsets_append_singleton (start : Nat) (names : List (List Nat)) (name : List Nat) :
    runningOffsets start (names ++ [name]) =
      runningOffsets start names ++ [start + names.flatten.length + name.length] := by
  induction names generalizing start with
  | nil => rfl
  | cons first names ih => simp [runningOffsets, ih, Nat.add_assoc]

theorem getElem?_runningOffsets (start : Nat) (names : List (List Nat)) {index : Nat}
    (inside : index ≤ names.length) :
    (runningOffsets start names)[index]? =
      some (start + ((names.map List.length).take index).sum) := by
  induction names generalizing start index with
  | nil =>
    rw [List.length_nil, Nat.le_zero] at inside
    subst inside
    rfl
  | cons name names ih =>
    cases index with
    | zero => simp [runningOffsets]
    | succ index =>
      simp [runningOffsets, ih _ (Nat.le_of_succ_le_succ inside), Nat.add_assoc]

theorem NameData.Encodes.pushName {data : NameData} {names : List (List Nat)}
    (encodes : data.Encodes names) {name : List Nat}
    (fits : names.flatten.length + name.length < 2 ^ 32) :
    (data.pushName name).Encodes (names ++ [name]) where
  chars := by simp [NameData.pushName, encodes.chars]
  offsets := by
    simp only [NameData.pushName, encodes.offsets, encodes.chars, runningOffsets_append_singleton,
      Nat.mod_eq_of_lt fits, Nat.zero_add]

/-- Appending strings one by one keeps them in id order after the ones already there. -/
theorem NameData.Encodes.pushNames : ∀ {data : NameData} {names : List (List Nat)}
    (strings : List (List Nat)), data.Encodes names → (names ++ strings).flatten.length < 2 ^ 32 →
      (strings.foldl NameData.pushName data).Encodes (names ++ strings)
  | _, _, [], encodes, _ => by simpa using encodes
  | _, names, name :: strings, encodes, fits => by
    rw [List.append_cons] at fits ⊢
    exact (encodes.pushName (by simp at fits ⊢; omega)).pushNames strings fits

/-! ## Writing the file -/

/-- Differences of running offsets are the lengths, when the total fits the `unsigned` offsets. -/
theorem offsetsToLengths_runningOffsets (start : Nat) (names : List (List Nat))
    (fits : start + names.flatten.length < 2 ^ 32) :
    offsetsToLengths (runningOffsets start names) =
      names.map List.length ++ [start + names.flatten.length] := by
  induction names generalizing start with
  | nil => rfl
  | cons name names ih =>
    rw [List.flatten_cons, List.length_append, ← Nat.add_assoc] at fits
    obtain ⟨rest, starts⟩ : ∃ rest,
        runningOffsets (start + name.length) names = (start + name.length) :: rest := by
      cases names <;> exact ⟨_, rfl⟩
    have length : (start + name.length + 2 ^ 32 - start) % 2 ^ 32 = name.length := by
      rw [show start + name.length + 2 ^ 32 - start = name.length + 2 ^ 32 by omega,
        Nat.add_mod_right, Nat.mod_eq_of_lt (by omega)]
    rw [runningOffsets, starts, offsetsToLengths, ← starts, ih _ fits, length]
    simp [Nat.add_assoc]

theorem writeChars_eq (written buffer chars : List Nat) :
    writeChars written buffer chars = written ++ buffer ++ chars := by
  induction chars generalizing written buffer with
  | nil => simp [writeChars]
  | cons char rest ih =>
    by_cases full : (buffer ++ [char]).length ≥ writeBlockBufferSize <;> simp [writeChars, full, ih]

/-- The file of a table holding `names`: their lengths for the `RangeTable`, their total and
their chars, once the total fits the `unsigned` offsets. -/
theorem writeCharData_spec {data : NameData} {names : List (List Nat)} (encodes : data.Encodes names)
    (fits : names.flatten.length < 2 ^ 32) :
    writeCharData data = some ⟨names.map List.length, names.flatten.length, names.flatten⟩ := by
  have lengths := offsetsToLengths_runningOffsets 0 names (by omega)
  rw [Nat.zero_add] at lengths
  simp [writeCharData, encodes.offsets, encodes.chars, lengths, writeChars_eq]

/-- The slice of the chars between the running offsets of an id is its string. -/
theorem slice_flatten {α : Type} (names : List (List α)) {id : Nat} (inside : id < names.length) :
    (names.flatten.drop ((names.map List.length).take id).sum).take names[id].length = names[id] := by
  rw [List.drop_sum_flatten, List.drop_eq_getElem_cons inside, List.flatten_cons,
    List.take_left' rfl]

theorem sum_take_succ_lengths {α : Type} (names : List (List α)) {id : Nat} (inside : id < names.length) :
    ((names.map List.length).take (id + 1)).sum =
      ((names.map List.length).take id).sum + names[id].length := by
  rw [List.sum_take_succ _ _ (by simpa using inside), List.getElem_map]

theorem sum_take_lengths_le {α : Type} (names : List (List α)) (id : Nat) :
    ((names.map List.length).take id).sum ≤ names.flatten.length := by
  rw [List.length_flatten, ← List.sum_take_add_sum_drop (names.map List.length) id]
  exact Nat.le_add_right _ _

/-- The name `CmpEdgeByInternalSourceTargetAndName` compares for an id is its string. -/
theorem nameOf_of_encodes {data : NameData} {names : List (List Nat)} (encodes : data.Encodes names)
    {id : Nat} (inside : id < names.length) :
    nameOf data.nameCharData data.nameOffsets id = some names[id] := by
  rw [nameOf, encodes.offsets, encodes.chars, getElem?_runningOffsets _ _ inside.le,
    getElem?_runningOffsets _ _ inside]
  simp only [Nat.zero_add, Option.bind_eq_bind, Option.some_bind, sum_take_succ_lengths _ inside,
    Nat.add_sub_cancel_left]
  rw [if_pos ⟨Nat.le_add_right _ _, sum_take_succ_lengths _ inside ▸ sum_take_lengths_le _ _⟩,
    slice_flatten _ inside]

end Osrm.Extractor

namespace Osrm.Engine.Datafacade

/-- `util::RangeTable<16, true>` as `GetNameForID` reads it: `GetRange(id)` as its first index
and its end. -/
structure RangeTable where
  getRange : Nat → Nat × Nat

/-- What a table built from `lengths` answers, for lengths it can store: the range of an id runs
from the sum of the lengths before it to the sum up to it. -/
def RangeTable.Represents (table : RangeTable) (lengths : List Nat) : Prop :=
  (∀ length ∈ lengths, length < 256) →
    ∀ id, id < lengths.length → table.getRange id = ((lengths.take id).sum, (lengths.take (id + 1)).sum)

/-- The table the contract describes: running sums of the lengths. -/
def RangeTable.ofLengths (lengths : List Nat) : RangeTable :=
  ⟨fun id => ((lengths.take id).sum, (lengths.take (id + 1)).sum)⟩

theorem RangeTable.ofLengths_represents (lengths : List Nat) :
    (RangeTable.ofLengths lengths).Represents lengths :=
  fun _ _ _ => rfl

/-- `SharedDataFacade::GetNameForID`; `none` where `std::copy` reads past `m_names_char_list`. -/
def getNameForID (namesCharList : List Nat) (nameTable : RangeTable) (nameId : Nat) :
    Option (List Nat) :=
  if Extractor.unsignedMax = nameId then some []
  else
    let (front, stop) := nameTable.getRange nameId
    if front ≠ stop then
      let back := stop - 1
      if back + 1 ≤ namesCharList.length then
        some ((namesCharList.drop front).take (back - front + 1))
      else none
    else some []

/-- `GetNameForID(name_id + offset)` in `unsigned` arithmetic: the strings stored after a street's
name, in the order name, destination, pronunciation, ref. -/
def getNameAfter (offset : Nat) (namesCharList : List Nat) (nameTable : RangeTable)
    (nameId : Nat) : Option (List Nat) :=
  getNameForID namesCharList nameTable ((nameId + offset) % 2 ^ 32)

def getDestinationsForID (namesCharList : List Nat) (nameTable : RangeTable) (nameId : Nat) :
    Option (List Nat) :=
  getNameAfter 1 namesCharList nameTable nameId

def getPronunciationForID (namesCharList : List Nat) (nameTable : RangeTable) (nameId : Nat) :
    Option (List Nat) :=
  getNameAfter 2 namesCharList nameTable nameId

def getRefForID (namesCharList : List Nat) (nameTable : RangeTable) (nameId : Nat) :
    Option (List Nat) :=
  getNameAfter 3 namesCharList nameTable nameId

/-! ## Reading the file back -/

open Extractor

/-- A table that represents the lengths of `names`, read over their chars, returns each string at
its id. -/
theorem getNameForID_of_represents {names : List (List Nat)} {table : RangeTable}
    (loaded : table.Represents (names.map List.length)) (short : ∀ name ∈ names, name.length < 256)
    (id : Nat) (inside : id < names.length) (valid : id ≠ unsignedMax) :
    getNameForID names.flatten table id = some names[id] := by
  have range := loaded (by simpa using short) id (by simpa using inside)
  have bound := sum_take_lengths_le names (id + 1)
  have slice := slice_flatten names inside
  rw [sum_take_succ_lengths _ inside] at range bound
  unfold getNameForID
  rw [if_neg (Ne.symm valid), range]
  dsimp only
  generalize ((names.map List.length).take id).sum = front at bound slice ⊢
  by_cases empty : names[id] = []
  · rw [if_neg (by simp [empty]), empty]
  · have positive : 0 < names[id].length := List.length_pos.mpr empty
    rw [if_pos (by omega), if_pos (by omega), show front + names[id].length - 1 - front + 1 =
      names[id].length by omega, slice]

/-- Every string the extractor wrote is read back at its id, through any table that represents
the written lengths, and it is the name that `CmpEdgeByInternalSourceTargetAndName` compared for
that id. The strings' chars must fit the `unsigned` offsets and each string the table's byte
lengths. -/
theorem getNameForID_roundTrip {data : NameData} {names : List (List Nat)}
    (encodes : data.Encodes names) (fits : names.flatten.length < 2 ^ 32)
    (short : ∀ name ∈ names, name.length < 256) :
    ∃ file, writeCharData data = some file ∧ file.totalLength = names.flatten.length ∧
      ∀ table : RangeTable, table.Represents file.nameLengths →
        ∀ id (inside : id < names.length), id ≠ unsignedMax →
          getNameForID file.nameCharList table id = some names[id] ∧
            nameOf data.nameCharData data.nameOffsets id = some names[id] :=
  ⟨_, writeCharData_spec encodes fits, rfl, fun _ loaded id inside valid =>
    ⟨getNameForID_of_represents loaded short id inside valid, nameOf_of_encodes encodes inside⟩⟩

/-- The table of the street `BAKER` after the constructor's empty street. -/
theorem getNameForID_roundTrip_bakerStreet :
    (NameData.init.pushName [66, 65, 75, 69, 82]).Encodes [[], [], [], [], [66, 65, 75, 69, 82]] ∧
      [[], [], [], [], [66, 65, 75, 69, 82]].flatten.length < 2 ^ 32 ∧
      (∀ name ∈ [[], [], [], [], [66, 65, 75, 69, 82]], name.length < 256) ∧
      ∃ file, writeCharData (NameData.init.pushName [66, 65, 75, 69, 82]) = some file ∧
        file.totalLength = [[], [], [], [], [66, 65, 75, 69, 82]].flatten.length ∧
        ∀ table : RangeTable, table.Represents file.nameLengths →
          ∀ id (inside : id < [[], [], [], [], [66, 65, 75, 69, 82]].length), id ≠ unsignedMax →
            getNameForID file.nameCharList table id =
                some [[], [], [], [], [66, 65, 75, 69, 82]][id] ∧
              nameOf (NameData.init.pushName [66, 65, 75, 69, 82]).nameCharData
                  (NameData.init.pushName [66, 65, 75, 69, 82]).nameOffsets id =
                some [[], [], [], [], [66, 65, 75, 69, 82]][id] :=
  have encodes : (NameData.init.pushName [66, 65, 75, 69, 82]).Encodes
      [[], [], [], [], [66, 65, 75, 69, 82]] := ⟨rfl, rfl⟩
  ⟨encodes, by decide, by decide, getNameForID_roundTrip encodes (by decide) (by decide)⟩

/-- The accessors of the strings after a street's name read them back the same way. -/
theorem getNameAfter_of_represents {names : List (List Nat)} {table : RangeTable}
    (loaded : table.Represents (names.map List.length)) (short : ∀ name ∈ names, name.length < 256)
    (offset nameId : Nat) (inside : (nameId + offset) % 2 ^ 32 < names.length)
    (valid : (nameId + offset) % 2 ^ 32 ≠ unsignedMax) :
    getNameAfter offset names.flatten table nameId = some names[(nameId + offset) % 2 ^ 32] :=
  getNameForID_of_represents loaded short _ inside valid

/-- Over the strings the extractor appends after its constructor, each is read back at its id
after the four empty strings, and the destinations, pronunciation and ref of the invalid name id
`UINT_MAX` wrap around onto those empty strings. -/
theorem pushNames_roundTrip (strings : List (List Nat)) (fits : strings.flatten.length < 2 ^ 32)
    (short : ∀ name ∈ strings, name.length < 256) :
    ∃ file, writeCharData (strings.foldl NameData.pushName NameData.init) = some file ∧
      ∀ table : RangeTable, table.Represents file.nameLengths →
        (∀ index (inside : index < strings.length), 4 + index < unsignedMax →
          getNameForID file.nameCharList table (4 + index) = some strings[index]) ∧
        getDestinationsForID file.nameCharList table unsignedMax = some [] ∧
        getPronunciationForID file.nameCharList table unsignedMax = some [] ∧
        getRefForID file.nameCharList table unsignedMax = some [] := by
  have encodes := NameData.encodes_init.pushNames strings (by simpa using fits)
  have all_short : ∀ name ∈ [[], [], [], []] ++ strings, name.length < 256 := by
    simpa using short
  refine ⟨_, writeCharData_spec encodes (by simpa using fits), fun table loaded =>
    ⟨fun index inside valid => ?_, ?_, ?_, ?_⟩⟩
  · have read := getNameForID_of_represents loaded all_short (4 + index) (by simp; omega)
      (by omega)
    rw [List.getElem_append_right (by simp)] at read
    simpa using read
  · exact getNameAfter_of_represents loaded all_short 1 unsignedMax (by simp [unsignedMax]) (by decide)
  · exact getNameAfter_of_represents loaded all_short 2 unsignedMax (by simp [unsignedMax]) (by decide)
  · exact getNameAfter_of_represents loaded all_short 3 unsignedMax (by simp [unsignedMax]) (by decide)

theorem pushNames_roundTrip_bakerStreet :
    [[66, 65, 75, 69, 82]].flatten.length < 2 ^ 32 ∧
      (∀ name ∈ [[66, 65, 75, 69, 82]], name.length < 256) ∧
      ∃ file, writeCharData ([[66, 65, 75, 69, 82]].foldl NameData.pushName NameData.init) =
          some file ∧
        ∀ table : RangeTable, table.Represents file.nameLengths →
          (∀ index (inside : index < [[66, 65, 75, 69, 82]].length), 4 + index < unsignedMax →
            getNameForID file.nameCharList table (4 + index) =
              some [[66, 65, 75, 69, 82]][index]) ∧
          getDestinationsForID file.nameCharList table unsignedMax = some [] ∧
          getPronunciationForID file.nameCharList table unsignedMax = some [] ∧
          getRefForID file.nameCharList table unsignedMax = some [] :=
  ⟨by decide, by decide, pushNames_roundTrip _ (by decide) (by decide)⟩

example :
    getRefForID [66, 65, 75, 69, 82] (RangeTable.ofLengths [0, 0, 0, 0, 5]) 4294967295 = some [] ∧
      getNameForID [66, 65, 75, 69, 82] (RangeTable.ofLengths [0, 0, 0, 0, 5]) 4 =
        some [66, 65, 75, 69, 82] := by
  decide

end Osrm.Engine.Datafacade
