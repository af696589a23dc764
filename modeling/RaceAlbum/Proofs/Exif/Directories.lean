import Mathlib.Data.List.Forall2
import RaceAlbum.Exif.Writer
import RaceAlbum.Proofs.Number.Digits

/-!
# Blocks of tags read back

A number in a width of bytes is read back in either order (`Bytes.number_ofNumber`), an entry as the tag that it was written
for, and a directory as the tags of its entries (`TagBlock.directory_of`). So the small picture with up to two texts is read as
what it was written from: its tags lead to the text of the camera where it is not empty, and to that of the file otherwise
(`Exif.capturedAt?_pictureOf`).
-/

namespace RaceAlbum

/-! ## Numbers of several bytes -/

namespace Bytes

variable {order : ByteOrder} {w n : Nat} {front rest : Bytes}

/-- A number is written in as many bytes as were asked for. -/
@[simp] theorem length_ofBigNumber (w n : Nat) : (ofBigNumber w n).length = w := by
  induction w generalizing n with
  | zero => rfl
  | succ w ih => simp [ofBigNumber, ih]

/-- So it is in either order. -/
@[simp] theorem length_ofNumber (order : ByteOrder) (w n : Nat) : (ofNumber order w n).length = w := by
  cases order <;> simp [ofNumber]

/-- A number is read back from its bytes as far as they hold it. -/
theorem bigNumber_ofBigNumber (w n : Nat) : bigNumber (ofBigNumber w n) = n % 256 ^ w :=
  foldl_written (fun n => by simp) (fun _ => rfl) (fun _ _ => rfl) w n

/-- A number that the bytes hold is read back in the order in which it was written. -/
theorem number_ofNumber (h : n < 256 ^ w) : number order (ofNumber order w n) = n := by
  cases order <;> simp [number, ofNumber, bigNumber_ofBigNumber, Nat.mod_eq_of_lt h]

/-- Bytes are split where the first ones end. -/
theorem splitExactly?_append (h : front.length = n) : splitExactly? n (front ++ rest) = some (front, rest) := by
  subst h
  simp [splitExactly?]

end Bytes

/-! ## Entries and directories -/

namespace Exif

/-- The values of an entry of a text fill the four bytes that they have. -/
theorem length_textValues (order : ByteOrder) (text : Bytes) (place : Nat) :
    (if (text ++ [0]).length ≤ 4 then text ++ [0] ++ List.replicate (4 - (text ++ [0]).length) 0
      else Bytes.ofNumber order 4 place).length = 4 := by
  split
  · rw [List.length_append, List.length_replicate]
    omega
  · exact Bytes.length_ofNumber order 4 place

/-- An entry of a text takes twelve bytes. -/
@[simp] theorem length_textEntry (order : ByteOrder) (number : Nat) (text : Bytes) (place : Nat) :
    (textEntry order number text place).length = 12 := by
  rw [textEntry, List.length_append, length_textValues]
  simp

/-- So does an entry of a place. -/
@[simp] theorem length_placeEntry (order : ByteOrder) (number place : Nat) :
    (placeEntry order number place).length = 12 := by
  simp [placeEntry]

end Exif

namespace TagBlock

variable {b : TagBlock} {order : ByteOrder} {number place : Nat} {text rest : Bytes}

/-- What the fields of an entry of a block with narrow places make of it. -/
theorem entry_of_fields (hwide : b.wide = false) {numberField typeField countField values : Bytes}
    (hnumber : numberField.length = 2) (htype : typeField.length = 2) (hcount : countField.length = 4)
    (hvalues : values.length = 4) :
    b.entry (numberField ++ typeField ++ countField ++ values) =
      match unitSize? (Bytes.number b.order typeField) with
      | none => .nothing
      | some unit =>
        let tag (data : Bytes) : Tag := ⟨Bytes.number b.order numberField, Bytes.number b.order typeField, data⟩
        let size := Bytes.number b.order countField * unit
        if size = 0 then .nothing
        else if size ≤ 4 then .tag (tag (values.take size))
        else match Bytes.splitExactly? size (b.bytes.drop (Bytes.number b.order values)) with
          | some (data, _) => .tag (tag data)
          | none => .broken := by
  -- the fields are cut out where they stand: two bytes, two, four, and four for the values
  have hfirst : ((numberField ++ typeField ++ countField ++ values).drop 0).take 2 = numberField := by
    simp only [List.append_assoc]
    exact List.take_left' hnumber
  have hsecond : ((numberField ++ typeField ++ countField ++ values).drop 2).take 2 = typeField := by
    simp only [List.append_assoc, List.drop_left' hnumber]
    exact List.take_left' htype
  have hthird : ((numberField ++ typeField ++ countField ++ values).drop 4).take 4 = countField := by
    rw [List.append_assoc, List.drop_left' (by simp [hnumber, htype])]
    exact List.take_left' hcount
  have hfourth : (numberField ++ typeField ++ countField ++ values).drop 8 = values :=
    List.drop_left' (by simp [hnumber, htype, hcount])
  have htake : values.take 4 = values := List.take_of_length_le (Nat.le_of_eq hvalues)
  have hread := entry.eq_1 b (numberField ++ typeField ++ countField ++ values)
  simp only [placeSize, hwide, Bool.false_eq_true, if_false, hfirst, hsecond, hthird, Nat.reduceAdd, hfourth,
    htake] at hread
  exact hread

/-- The entry of a text is read as a tag with the text and its zero, wherever the text stands. -/
theorem entry_textEntry (hwide : b.wide = false) (hnumber : number < 65536) (hlength : text.length + 1 < 256 ^ 4)
    (hplace : place < 256 ^ 4) (htail : b.bytes.drop place = Exif.textTail text ++ rest) :
    b.entry (Exif.textEntry b.order number text place) = .tag ⟨number, textType, text ++ [0]⟩ := by
  have hnumber : Bytes.number b.order (Bytes.ofNumber b.order 2 number) = number := Bytes.number_ofNumber hnumber
  have htype : Bytes.number b.order (Bytes.ofNumber b.order 2 textType) = textType := Bytes.number_ofNumber (by decide)
  have hcount : Bytes.number b.order (Bytes.ofNumber b.order 4 (text ++ [0]).length) = (text ++ [0]).length :=
    Bytes.number_ofNumber (by simpa using hlength)
  have hunit : unitSize? textType = some 1 := rfl
  unfold Exif.textEntry
  rw [entry_of_fields hwide (by simp) (by simp) (by simp) (Exif.length_textValues _ _ _)]
  simp only [hnumber, htype, hcount, hunit, Nat.mul_one]
  rw [if_neg (by simp)]
  by_cases hshort : (text ++ [0]).length ≤ 4
  · rw [if_pos hshort, if_pos hshort, List.take_left]
  · have hplaced : Bytes.number b.order (Bytes.ofNumber b.order 4 place) = place := Bytes.number_ofNumber hplace
    have houtside : Exif.textTail text = text ++ [0] := if_neg (by simpa using hshort)
    rw [if_neg hshort, if_neg hshort, hplaced, htail, houtside, Bytes.splitExactly?_append rfl]

/-- The entry of a place is read as a tag with the bytes of the place. -/
theorem entry_placeEntry (hwide : b.wide = false) (hnumber : number < 65536) (place : Nat) :
    b.entry (Exif.placeEntry b.order number place) = .tag ⟨number, 4, Bytes.ofNumber b.order 4 place⟩ := by
  have hnumber : Bytes.number b.order (Bytes.ofNumber b.order 2 number) = number := Bytes.number_ofNumber hnumber
  have htype : Bytes.number b.order (Bytes.ofNumber b.order 2 4) = 4 := Bytes.number_ofNumber (by decide)
  have hcount : Bytes.number b.order (Bytes.ofNumber b.order 4 1) = 1 := Bytes.number_ofNumber (by decide)
  have hunit : unitSize? 4 = some 4 := rfl
  unfold Exif.placeEntry
  rw [entry_of_fields hwide (by simp) (by simp) (by simp) (by simp)]
  simp only [hnumber, htype, hcount, hunit]
  rw [if_neg (by decide), if_pos (by decide), List.take_of_length_le (by simp)]

/-- The place of a directory is read from its tag. -/
theorem integers?_place (hplace : place < 256 ^ 4) :
    b.integers? ⟨number, 4, Bytes.ofNumber b.order 4 place⟩ = some [(place : Int)] := by
  have hread : Bytes.number b.order (Bytes.ofNumber b.order 4 place) = place := Bytes.number_ofNumber hplace
  have hsplit : Bytes.splitExactly? 4 (Bytes.ofNumber b.order 4 place) = some (Bytes.ofNumber b.order 4 place, []) := by
    rw [← List.append_nil (Bytes.ofNumber b.order 4 place), Bytes.splitExactly?_append (Bytes.length_ofNumber _ _ _),
      List.append_nil]
  have hend : Bytes.splitExactly? 4 [] = none := rfl
  have hsigned : List.lookup 4 integerTypes = some false := rfl
  have hunit : unitSize? 4 = some 4 := rfl
  simp [integers?, hsigned, hunit, integersOf, hsplit, hend, integer, hread]

/-- Entries of twelve bytes that are tags are read as these tags. -/
theorem entries_flatten (hwide : b.wide = false) {es : List Bytes} {ts : List Tag}
    (h : List.Forall₂ (fun e t => e.length = 12 ∧ b.entry e = .tag t) es ts) (rest : Bytes) :
    b.entries es.length (es.flatten ++ rest) = ts := by
  have hsize : b.entrySize = 12 := by simp [entrySize, placeSize, hwide]
  induction h with
  | nil => rfl
  | @cons e t es ts he _ ih =>
    rw [List.length_cons, List.flatten_cons, List.append_assoc, entries, hsize, Bytes.splitExactly?_append he.1]
    simp only [he.2, ih]

/-- A directory is read where it stands. -/
theorem directory_of (hwide : b.wide = false) {es : List Bytes} {ts : List Tag}
    (h : List.Forall₂ (fun e t => e.length = 12 ∧ b.entry e = .tag t) es ts) (hcount : es.length < 65536)
    (hplace : b.bytes.drop place = Exif.directoryOf b.order es ++ rest) : b.directory place = ts := by
  have hread : Bytes.number b.order (Bytes.ofNumber b.order 2 es.length) = es.length := Bytes.number_ofNumber hcount
  have hsplit : Bytes.splitExactly? 2 (b.bytes.drop place) = some (Bytes.ofNumber b.order 2 es.length,
      es.flatten ++ (Bytes.ofNumber b.order 4 0 ++ rest)) := by
    rw [hplace, Exif.directoryOf, List.append_assoc, List.append_assoc]
    exact Bytes.splitExactly?_append (Bytes.length_ofNumber _ _ _)
  simp only [directory, hwide, Bool.false_eq_true, if_false, hsplit, hread]
  exact entries_flatten hwide h _

end TagBlock

/-! ## The block of the small picture -/

namespace Exif

variable {order : ByteOrder} {capture file : Option Bytes} {text : Bytes}

/-- The tag of a text. -/
def textTag (number : Nat) (text : Bytes) : Tag := ⟨number, TagBlock.textType, text ++ [0]⟩

/-- The place behind the first directory. -/
def afterFirst (capture file : Option Bytes) : Nat := 8 + directorySize (file.toList.length + capture.toList.length)

/-- The place of the directory of the camera, behind the text of the file. -/
def cameraPlace (capture file : Option Bytes) : Nat := afterFirst capture file + ((file.map textTail).getD []).length

/-- The entries of the first directory. -/
def firstEntries (order : ByteOrder) (capture file : Option Bytes) : List Bytes :=
  (file.toList.map fun t => textEntry order fileTimeTag t (afterFirst capture file)) ++
    capture.toList.map fun _ => placeEntry order cameraTag (cameraPlace capture file)

/-- The directory of the camera, and its text. -/
def cameraPart (order : ByteOrder) (capture file : Option Bytes) : Bytes :=
  (capture.map fun t =>
    directoryOf order [textEntry order captureTag t (cameraPlace capture file + directorySize 1)] ++ textTail t).getD []

/-- The parts of a block: its head, the first directory, the text of the file, and the directory of the camera with its text. -/
theorem blockOf_eq (order : ByteOrder) (capture file : Option Bytes) : blockOf order capture file =
    blockHead order ++ directoryOf order (firstEntries order capture file) ++ (file.map textTail).getD [] ++
      cameraPart order capture file := rfl

/-- The block that is read. -/
def block (order : ByteOrder) (capture file : Option Bytes) : TagBlock :=
  ⟨order, false, 8, blockOf order capture file⟩

/-- The head takes eight bytes. -/
@[simp] theorem length_blockHead (order : ByteOrder) : (blockHead order).length = 8 := by
  cases order <;> rfl

/-- A directory takes twelve bytes for each entry, and six for their count and its end. -/
theorem length_directoryOf {es : List Bytes} (h : ∀ e ∈ es, e.length = 12) :
    (directoryOf order es).length = directorySize es.length := by
  have hentries : es.flatten.length = 12 * es.length := by
    rw [List.length_flatten, List.map_eq_replicate_iff.2 h, List.sum_replicate_nat, Nat.mul_comm]
  simp [directoryOf, directorySize, hentries, Nat.add_assoc]

/-- What comes after the first directory begins where it is said to. -/
theorem length_firstDirectory (order : ByteOrder) (capture file : Option Bytes) :
    (blockHead order ++ directoryOf order (firstEntries order capture file)).length = afterFirst capture file := by
  have hentries : ∀ e ∈ firstEntries order capture file, e.length = 12 := by
    simp +contextual [firstEntries, or_imp]
  rw [List.length_append, length_blockHead, length_directoryOf hentries]
  simp [firstEntries, afterFirst]

/-- There the text of the file is. -/
theorem drop_afterFirst (order : ByteOrder) (capture file : Option Bytes) :
    (blockOf order capture file).drop (afterFirst capture file) =
      (file.map textTail).getD [] ++ cameraPart order capture file := by
  rw [blockOf_eq, List.append_assoc, List.drop_left' (length_firstDirectory order capture file)]

/-- The directory of the camera is where its place says. -/
theorem drop_cameraPlace (order : ByteOrder) (capture file : Option Bytes) :
    (blockOf order capture file).drop (cameraPlace capture file) = cameraPart order capture file := by
  rw [cameraPlace, ← List.drop_drop, drop_afterFirst, List.drop_left]

/-- The head tells the order of the bytes and the place of the first directory. -/
theorem ofBytes_blockOf (order : ByteOrder) (capture file : Option Bytes) :
    TagBlock.ofBytes (blockOf order capture file) = .ok (block order capture file) := by
  have hhead : (blockOf order capture file).take TagBlock.headSize = blockHead order := by
    rw [blockOf_eq, List.append_assoc, List.append_assoc]
    exact List.take_left' (length_blockHead order)
  rw [TagBlock.ofBytes, hhead]
  cases order <;> rfl

/-- The block has room for all its places. -/
theorem places_le (order : ByteOrder) (capture file : Option Bytes) :
    cameraPlace capture file + (cameraPart order capture file).length = (blockOf order capture file).length := by
  rw [blockOf_eq, List.length_append, List.length_append, length_firstDirectory, cameraPlace]

/-- A block that fits into a segment is shorter than what two bytes can count. -/
theorem length_blockOf_lt (hfits : (Picture.blockMark ++ blockOf order capture file).length + 2 < 65536) :
    (blockOf order capture file).length < 65536 := by
  rw [List.length_append] at hfits
  omega

/-- A text that stands in a block of this size can be counted. -/
theorem length_text_lt (h : (textTail text).length < 65536) : text.length + 1 < 256 ^ 4 := by
  unfold textTail at h
  split at h
  · omega
  · rw [List.length_append, List.length_singleton] at h
    omega

/-- The tags of the first directory: the text of the file, and the place of the camera's directory. -/
def firstTags (order : ByteOrder) (capture file : Option Bytes) : List Tag :=
  file.toList.map (textTag fileTimeTag) ++
    capture.toList.map fun _ => ⟨cameraTag, 4, Bytes.ofNumber order 4 (cameraPlace capture file)⟩

/-- The first directory is read as its entries were written. -/
theorem directory_first (hfits : (blockOf order capture file).length < 65536) :
    (block order capture file).directory (block order capture file).first = firstTags order capture file := by
  have hplaces := places_le order capture file
  have hafter : afterFirst capture file ≤ cameraPlace capture file := Nat.le_add_right _ _
  have hfile : ∀ t ∈ file.toList, (block order capture file).entry
      (textEntry order fileTimeTag t (afterFirst capture file)) = .tag (textTag fileTimeTag t) := by
    intro t ht
    obtain rfl := Option.mem_toList.1 ht
    refine TagBlock.entry_textEntry rfl (by decide) (length_text_lt ?_) (by omega) (drop_afterFirst order capture (some t))
    rw [← hplaces, cameraPlace, Option.map_some, Option.getD_some] at hfits
    omega
  have hcamera (place : Nat) : (block order capture file).entry (placeEntry order cameraTag place) =
      .tag ⟨cameraTag, 4, Bytes.ofNumber order 4 place⟩ := TagBlock.entry_placeEntry rfl (by decide) place
  have hall : List.Forall₂ (fun e t => e.length = 12 ∧ (block order capture file).entry e = .tag t)
      (firstEntries order capture file) (firstTags order capture file) := by
    unfold firstEntries firstTags
    refine List.rel_append ?_ ?_
    · rw [List.forall₂_map_left_iff, List.forall₂_map_right_iff, List.forall₂_same]
      exact fun t ht => ⟨length_textEntry _ _ _ _, hfile t ht⟩
    · rw [List.forall₂_map_left_iff, List.forall₂_map_right_iff, List.forall₂_same]
      exact fun t _ => ⟨length_placeEntry _ _ _, hcamera _⟩
  have hdrop : (blockOf order capture file).drop 8 = directoryOf order (firstEntries order capture file) ++
      ((file.map textTail).getD [] ++ cameraPart order capture file) := by
    rw [blockOf_eq, List.append_assoc, List.append_assoc, List.drop_left' (length_blockHead order)]
  refine TagBlock.directory_of rfl hall ?_ hdrop
  cases capture <;> cases file <;> simp [firstEntries]

/-- So is the directory of the camera. -/
theorem directory_camera (hfits : (blockOf order (some text) file).length < 65536) :
    (block order (some text) file).directory (cameraPlace (some text) file) = [textTag captureTag text] := by
  have hplaces := places_le order (some text) file
  have hpart : cameraPart order (some text) file = directoryOf order [textEntry order captureTag text
      (cameraPlace (some text) file + directorySize 1)] ++ textTail text := rfl
  have hlength : (directoryOf order [textEntry order captureTag text
      (cameraPlace (some text) file + directorySize 1)]).length = directorySize 1 := length_directoryOf (by simp)
  rw [hpart, List.length_append, hlength] at hplaces
  have hdrop : (blockOf order (some text) file).drop (cameraPlace (some text) file + directorySize 1) =
      textTail text ++ [] := by
    rw [← List.drop_drop, drop_cameraPlace, hpart, List.drop_left' hlength, List.append_nil]
  have hentry : (block order (some text) file).entry
      (textEntry order captureTag text (cameraPlace (some text) file + directorySize 1)) = .tag (textTag captureTag text) :=
    TagBlock.entry_textEntry rfl (by decide) (length_text_lt (by omega)) (by omega) hdrop
  exact TagBlock.directory_of rfl (.cons ⟨length_textEntry _ _ _ _, hentry⟩ .nil) (by simp)
    (drop_cameraPlace order (some text) file)

/-! ## The text that tells the time -/

/-- The text that is used: that of the camera if it is given and not empty, else that of the file. -/
def usedText (capture file : Option Bytes) : Option Bytes :=
  match capture with
  | some (c :: cs) => some (c :: cs)
  | _ => file

/-- The text of an entry is read up to its end mark. -/
@[simp] theorem text?_textTag (number : Nat) (text : Bytes) : TagBlock.text? (textTag number text) = some text := by
  simp [TagBlock.text?, textTag]

/-- A moment is read from the text of an entry. -/
theorem momentOf?_textTag (number : Nat) (text : Bytes) :
    momentOf? (textTag number text) = CaptureTime.read? (Bytes.latin text) := by
  rw [momentOf?, text?_textTag]
  rfl

/-- An entry of a text is given unless the text is empty. -/
theorem isGiven_textTag (b : TagBlock) (number : Nat) (text : Bytes) :
    b.isGiven (textTag number text) = !text.isEmpty := by
  rw [TagBlock.isGiven, text?_textTag]

/-- The first directory has the time of the file if there is one. -/
theorem tag?_fileTime (order : ByteOrder) (capture file : Option Bytes) :
    TagBlock.tag? (firstTags order capture file) fileTimeTag = file.map (textTag fileTimeTag) := by
  cases capture <;> cases file <;> rfl

/-- It has the place of the camera's directory if the camera wrote a time. -/
theorem tag?_camera (order : ByteOrder) (capture file : Option Bytes) :
    TagBlock.tag? (firstTags order capture file) cameraTag =
      capture.map fun _ => ⟨cameraTag, 4, Bytes.ofNumber order 4 (cameraPlace capture file)⟩ := by
  cases capture <;> cases file <;> rfl

/-- A place that a file may have leads to a directory. -/
theorem cameraTags?_of_place {b : TagBlock} {first : List Tag} {place : Nat} {more : List Int}
    (hread : (TagBlock.tag? first cameraTag).bind b.integers? = some ((place : Int) :: more)) (hplace : place < 256 ^ 4) :
    cameraTags? b first = .ok (some (b.directory place)) := by
  have hpow : (twoPow 63 : Int) = 9223372036854775808 := by decide
  have hpositive : ¬(place : Int) < 0 := by omega
  have hsmall : ¬(twoPow 63 : Int) ≤ (place : Int) := by omega
  rw [cameraTags?, hread]
  dsimp only
  rw [if_neg hpositive, if_neg hsmall, Int.toNat_natCast]

/-- What the camera wrote is found by this place. -/
theorem cameraTags?_block (hfits : (blockOf order capture file).length < 65536) :
    cameraTags? (block order capture file) (firstTags order capture file) =
      .ok (some (capture.toList.map (textTag captureTag))) := by
  cases capture with
  | none => rw [cameraTags?, tag?_camera]; rfl
  | some text =>
    have hplaces := places_le order (some text) file
    have hplace : cameraPlace (some text) file < 256 ^ 4 := by omega
    have hread : (block order (some text) file).integers? ⟨cameraTag, 4, Bytes.ofNumber order 4 (cameraPlace (some text) file)⟩ =
        some [(cameraPlace (some text) file : Int)] := TagBlock.integers?_place hplace
    rw [cameraTags?_of_place (by rw [tag?_camera]; exact hread) hplace, directory_camera hfits]
    rfl

/-- The moment that is told is that of the used text. -/
theorem timeTag?_block (hfits : (blockOf order capture file).length < 65536) :
    ∃ tag, timeTag? (block order capture file) = .ok tag ∧
      tag.bind momentOf? = (usedText capture file).bind fun text => CaptureTime.read? (Bytes.latin text) := by
  have hfile : (file.map (textTag fileTimeTag)).bind momentOf? =
      file.bind fun text => CaptureTime.read? (Bytes.latin text) := by
    cases file with
    | none => rfl
    | some text => exact momentOf?_textTag _ _
  rw [timeTag?, directory_first hfits, cameraTags?_block hfits, tag?_fileTime]
  rcases capture with _ | _ | ⟨c, cs⟩
  · exact ⟨_, rfl, hfile⟩
  · exact ⟨_, rfl, hfile⟩
  · refine ⟨some (textTag captureTag (c :: cs)), ?_, momentOf?_textTag _ _⟩
    change Except.ok (if (block order (some (c :: cs)) file).isGiven (textTag captureTag (c :: cs)) = true then
      some (textTag captureTag (c :: cs)) else file.map (textTag fileTimeTag)) = _
    rw [isGiven_textTag]
    rfl

/-! ## The picture -/

end Exif

namespace Picture

namespace Segments

/-- A segment in the middle is told about and passed. -/
theorem walk_segment {marker pending : UInt8} {content after : Bytes} {found found' : Segments} (fuel : Nat)
    (hmarker : (isLoneMarker marker.toNat || marker.toNat = 0) = false ∧ marker.toNat ≠ 0xFF ∧ marker.toNat ≠ 0xDA)
    (hlength : content.length + 2 < 65536) (htold : told? marker.toNat content found = some found') :
    walk (fuel + 1) 0xFF (marker :: Bytes.ofNumber .big 2 (content.length + 2) ++ content ++ pending :: after) found =
      walk fuel pending after found' := by
  have hsegment : segment? (Bytes.ofNumber .big 2 (content.length + 2) ++ content ++ pending :: after) =
      some (content, pending :: after) := by
    have hread : Bytes.number .big (Bytes.ofNumber .big 2 (content.length + 2)) = content.length + 2 :=
      Bytes.number_ofNumber hlength
    rw [Bytes.number] at hread
    rw [segment?, List.append_assoc, Bytes.splitExactly?_append (Bytes.length_ofNumber _ _ _)]
    simp only [hread, Option.bind_eq_bind, Option.bind_some, Nat.add_sub_cancel]
    exact Bytes.splitExactly?_append rfl
  rw [List.cons_append, List.cons_append, walk.eq_def]
  dsimp only
  rw [if_neg (by simp), hsegment]
  simp only [hmarker.1, Bool.false_eq_true, if_false, if_neg hmarker.2.1, if_neg hmarker.2.2, htold]

end Segments

end Picture

namespace Exif

/-- The frame of the small picture: one point of one layer. -/
def frame : Bytes := [8, 0, 1, 0, 1, 1, 1, 0x11, 0]

/-- What stands behind the segments that are told: the head of the points, and the points. -/
def points : Bytes := 0xDA :: Bytes.ofNumber .big 2 8 ++ [1, 1, 0, 0, 63, 0] ++ [0, 0xFF, 0xD9]

/-- The picture is a header, one segment with the marked block, and its end. -/
theorem pictureOf_eq (order : ByteOrder) (capture file : Option Bytes) :
    let marked := Picture.blockMark ++ blockOf order capture file
    pictureOf order capture file = Picture.segmentsMark ++ (0xE1 :: Bytes.ofNumber .big 2 (marked.length + 2) ++ marked ++
      0xFF :: (0xC0 :: Bytes.ofNumber .big 2 (frame.length + 2) ++ frame ++ 0xFF :: points)) := by
  simp [pictureOf, segmentOf, Picture.segmentsMark, frame, points]

/-- The segments of the small picture tell its size and its block. -/
theorem walk_pictureOf (hfits : (Picture.blockMark ++ blockOf order capture file).length + 2 < 65536) (fuel : Nat) :
    Picture.Segments.walk (fuel + 3) 0xFF ((pictureOf order capture file).drop Picture.segmentsMark.length) .empty =
      some ⟨some (1, 1), some (Picture.blockMark ++ blockOf order capture file), [], false⟩ := by
  have hmark : Picture.blockMark.isPrefixOf (Picture.blockMark ++ blockOf order capture file) = true := by simp
  have hblock : Picture.Segments.told? (0xE1 : UInt8).toNat (Picture.blockMark ++ blockOf order capture file) .empty =
      some ⟨none, some (Picture.blockMark ++ blockOf order capture file), [], false⟩ := by
    simp only [Picture.Segments.told?, hmark]
    rfl
  have hframe (block : Bytes) : Picture.Segments.told? (0xC0 : UInt8).toNat frame ⟨none, some block, [], false⟩ =
      some ⟨some (1, 1), some block, [], false⟩ := rfl
  rw [pictureOf_eq, List.drop_left, Picture.Segments.walk_segment (fuel + 2) (by decide) hfits hblock,
    Picture.Segments.walk_segment (fuel + 1) (by decide) (by decide) (hframe _)]
  rfl

/-- The tags of a marked block are those of the block. -/
theorem tags?_marked (lenient : Bool) (order : ByteOrder) (capture file : Option Bytes) :
    (Picture.TagSource.block lenient (Picture.blockMark ++ blockOf order capture file)).tags? =
      .ok (some (block order capture file)) := by
  have hmark : Picture.blockMark.isPrefixOf (Picture.blockMark ++ blockOf order capture file) = true := by simp
  have hempty : (blockOf order capture file).isEmpty = false := by cases order <;> rfl
  simp only [Picture.TagSource.tags?, Picture.unmarked, hmark, if_true, List.drop_left, hempty, ofBytes_blockOf,
    Bool.false_eq_true, if_false]

/-- The tags of the small picture are those of its block. -/
theorem tags?_pictureOf (hfits : (Picture.blockMark ++ blockOf order capture file).length + 2 < 65536) :
    tags? (pictureOf order capture file) = .ok (some (block order capture file)) := by
  have hblock := length_blockOf_lt hfits
  have hstart : Picture.segmentsMark.isPrefixOf (pictureOf order capture file) = true := by
    rw [pictureOf_eq]
    simp
  -- three steps are enough for the block, the frame and the points
  obtain ⟨fuel, hfuel⟩ : ∃ fuel, (pictureOf order capture file).length = fuel + 3 := by
    refine ⟨(pictureOf order capture file).length - 3, ?_⟩
    have hlength := congrArg List.length (pictureOf_eq order capture file)
    simp [Picture.segmentsMark] at hlength
    omega
  have hresolvable : Picture.isResolvable (Picture.blockMark ++ blockOf order capture file) = true := by
    have hunit : TagBlock.tag? (firstTags order capture file) Picture.unitTag = none := by
      cases capture <;> cases file <;> rfl
    simp only [Picture.isResolvable, tags?_marked, directory_first hblock, hunit]
    rfl
  have hsource : Picture.ofSegments? (pictureOf order capture file) =
      some (.block true (Picture.blockMark ++ blockOf order capture file)) := by
    rw [Picture.ofSegments?, hfuel, walk_pictureOf hfits]
    simp only [Option.bind_eq_bind, Option.bind_some, hresolvable]
    rfl
  rw [tags?, source?, if_pos hstart, hsource]
  exact tags?_marked true order capture file

/-- The small picture tells the time that its used text tells, and reading it never fails. -/
theorem capturedAt?_pictureOf (hfits : (Picture.blockMark ++ blockOf order capture file).length + 2 < 65536) :
    capturedAt? (pictureOf order capture file) =
      .ok ((usedText capture file).bind fun text => CaptureTime.read? (Bytes.latin text)) := by
  obtain ⟨tag, htag, hmoment⟩ := timeTag?_block (length_blockOf_lt hfits)
  rw [capturedAt?, tags?_pictureOf hfits, ← hmoment]
  change (timeTag? (block order capture file) >>= fun tag => Except.ok (tag.bind momentOf?)) = _
  rw [htag]
  rfl

end Exif

end RaceAlbum
