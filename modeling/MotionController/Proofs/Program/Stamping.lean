import MotionController.Program.Label
import MotionController.Program.Stamp
import MotionController.Proofs.StringCell.Fidelity
import MotionController.Proofs.Text.Cutting

/-!
# Stamped programs

The digest of a program always fits a string cell (`exists_cell_programHash`). A stamped program has
no stub left, so that stamping it again changes nothing (`stamp_stamp`). The name is written as it
is: nothing but the stubs changes exactly if the name breaks no line and defines no label where it
is written (`stamp_changes_only_stubs`).
-/

namespace MotionController
namespace Program

open Text

variable {name hash line piece a b : List Char} {lines : List (List Char)} {program : String}
  {cell : StringCell.Cell}

/-! ## The digest of a program -/

theorem utf8Size_hexDigest {message : List UInt8} {c : Char} (h : c ∈ Md5.hexDigest message) :
    c.utf8Size = 1 := by
  have hall : ∀ n < 16, (if n < 10 then Char.ofNat ('0'.toNat + n)
      else Char.ofNat ('a'.toNat + (n - 10))).utf8Size = 1 := by decide
  simp only [Md5.hexDigest] at h
  rcases List.mem_flatMap.1 h with ⟨byte, _, hc⟩
  rcases StringCell.halves_lt byte with ⟨hhigh, hlow⟩
  simp only [List.mem_cons, List.not_mem_nil, or_false] at hc
  rcases hc with rfl | rfl
  · exact hall _ hhigh
  · exact hall _ hlow

theorem byteLength_take_hexDigest (message : List UInt8) (n : Nat) :
    byteLength ((Md5.hexDigest message).take n) ≤ n := by
  have hone : ∀ c ∈ (Md5.hexDigest message).take n, c.utf8Size = 1 := fun c hc =>
    utf8Size_hexDigest (List.mem_of_mem_take hc)
  simp only [byteLength_eq_length hone]
  exact List.length_take_le n _

/-- Every program has a digest, written as a string cell. -/
theorem exists_cell_programHash (program : String) :
    ∃ cell : StringCell.Cell, programHash program = .ok cell.written := by
  have hbytes := byteLength_take_hexDigest (utf8Bytes program.toList) 6
  have hencodes := StringCell.encodes
    (String.ofList ((Md5.hexDigest (utf8Bytes program.toList)).take 6))
  unfold programHash
  generalize StringCell.encode _ = written at hencodes
  cases hencodes with
  | written _ cell _ => exact ⟨cell, rfl⟩
  | tooLong hsize =>
      simp only [← length_utf8Bytes_toList, length_utf8Bytes, String.toList_ofList] at hsize
      exact absurd hbytes (Nat.not_le_of_lt hsize)

theorem newline_not_mem_cell (cell : StringCell.Cell) : '\n' ∉ cell.written.toList := fun h =>
  absurd (cell.mem_marks_or_digits h) (by decide)

theorem semicolon_not_mem_cell (cell : StringCell.Cell) : ';' ∉ cell.written.toList := fun h =>
  absurd (cell.mem_marks_or_digits h) (by decide)

/-! ## Stubs -/

/-- The line is one of the empty routines that are filled in. -/
def IsStub (line : List Char) : Prop :=
  line = initStub ∨ line = answerStub

instance : DecidablePred IsStub := fun line =>
  inferInstanceAs (Decidable (line = initStub ∨ line = answerStub))

theorem stampLine_initStub (name hash : List Char) :
    stampLine name hash initStub = initRoutine name hash :=
  if_pos rfl

theorem stampLine_answerStub (name hash : List Char) :
    stampLine name hash answerStub = answerRoutine := by
  have hne : answerStub ≠ initStub := by decide
  simp [stampLine, hne]

theorem stampLine_of_not_isStub (h : ¬IsStub line) : stampLine name hash line = line := by
  unfold IsStub at h
  simp only [not_or] at h
  simp [stampLine, h.1, h.2]

theorem IsStub.quote_not_mem (h : IsStub line) : '"' ∉ line := by
  rcases h with rfl | rfl <;> decide

/-- A stub is longer than any name. -/
theorem IsStub.capacity_lt (h : IsStub line) : StringCell.capacity < byteLength line := by
  rcases h with rfl | rfl <;> decide

/-- No line of a filled routine is a stub, wherever the name breaks it. -/
theorem not_isStub_of_mem_initRoutine (hname : byteLength name ≤ StringCell.capacity)
    (hhash : '\n' ∉ hash) (h : piece ∈ cut '\n' (initRoutine name hash)) : ¬IsStub piece := by
  intro hstub
  have hfront : '\n' ∉ "#xINIT;xPrgName=\"".toList := by decide
  have hbehind : '\n' ∉ "\";xPrgHash=".toList ++ (hash ++ ";xAPIOk=0;EN".toList) := by
    have hcloses : '\n' ∉ "\";xPrgHash=".toList := by decide
    have hends : '\n' ∉ ";xAPIOk=0;EN".toList := by decide
    simp only [List.mem_append, hcloses, hhash, hends, or_self, not_false_eq_true]
  have hpiece : piece ∈ cut '\n' ("#xINIT;xPrgName=\"".toList ++
      (name ++ ("\";xPrgHash=".toList ++ (hash ++ ";xAPIOk=0;EN".toList)))) := by
    unfold initRoutine at h
    simpa only [List.append_assoc] using h
  -- The text around the name holds a quote on either side.
  rcases mem_cut_append_left hfront hpiece with hstarts | hpiece
  · have hopens : '"' ∈ "#xINIT;xPrgName=\"".toList := by decide
    exact hstub.quote_not_mem (hstarts.subset hopens)
  · rcases mem_cut_append_right hbehind hpiece with hpiece | hends
    · have hle := byteLength_le_of_sublist (sublist_of_mem_cut hpiece)
      exact absurd hstub.capacity_lt (Nat.not_lt_of_le (Nat.le_trans hle hname))
    · have hcloses : '"' ∈ "\";xPrgHash=".toList := by decide
      exact hstub.quote_not_mem (hends.subset (List.mem_append_left _ hcloses))

/-! ## Lines of a stamped program -/

/-- Each line of the program becomes the lines of what it is filled in as. -/
theorem cut_stamp (program name hash : String) :
    cut '\n' (stamp program name hash).toList =
      (cut '\n' program.toList).flatMap fun line =>
        cut '\n' (stampLine name.toList hash.toList line) := by
  have hne : (cut '\n' program.toList).map (stampLine name.toList hash.toList) ≠ [] := by
    simpa using cut_ne_nil '\n' program.toList
  unfold stamp
  simp only [String.toList_ofList, cut_join_eq_flatMap hne, List.flatMap_map]

theorem stamp_eq_self {name hash : String} (h : ∀ line ∈ cut '\n' program.toList, ¬IsStub line) :
    stamp program name hash = program := by
  have hmap : (cut '\n' program.toList).map (stampLine name.toList hash.toList) =
      cut '\n' program.toList := by
    have hself : ∀ line ∈ cut '\n' program.toList,
        stampLine name.toList hash.toList line = line := fun line hline =>
      stampLine_of_not_isStub (h line hline)
    simpa using List.map_congr_left hself
  simp [stamp, hmap, join_cut]

theorem not_isStub_of_mem_stamp {name : String}
    (hname : byteLength name.toList ≤ StringCell.capacity)
    (h : line ∈ cut '\n' (stamp program name cell.written).toList) : ¬IsStub line := by
  simp only [cut_stamp, List.mem_flatMap] at h
  rcases h with ⟨source, hsource, hline⟩
  by_cases hstub : IsStub source
  · rcases hstub with rfl | rfl
    · simp only [stampLine_initStub] at hline
      exact not_isStub_of_mem_initRoutine hname (newline_not_mem_cell cell) hline
    · have hline : line = answerRoutine := by
        have hnewline : '\n' ∉ answerRoutine := by decide
        simpa [stampLine_answerStub, cut_of_not_mem hnewline] using hline
      exact hline ▸ (by decide : ¬IsStub answerRoutine)
  · have hline : line = source := by
      simpa [stampLine_of_not_isStub hstub, cut_of_not_mem (not_mem_of_mem_cut hsource)] using hline
    exact hline ▸ hstub

/-- A stamped program has no stub to fill in. -/
theorem stamp_stamp {name : String} (hname : byteLength name.toList ≤ StringCell.capacity) :
    stamp (stamp program name cell.written) name cell.written =
      stamp program name cell.written :=
  stamp_eq_self fun _ => not_isStub_of_mem_stamp hname

/-! ## Labels of a filled routine -/

theorem definedLabels_append_cons (a b : List Char) :
    definedLabels (a ++ ';' :: b) = definedLabels a ++ definedLabels b := by
  simp [definedLabels, cut_append_cons]

theorem definedLabel?_cons_of_ne {c : Char} (hc : c ≠ '#') : definedLabel? (c :: a) = none := by
  unfold definedLabel?
  split
  · next heq => exact absurd (List.cons.inj heq).1 hc
  · rfl

/-- A quote behind a command does not change its label. -/
theorem definedLabel?_append_quote (a : List Char) :
    definedLabel? (a ++ ['"']) = definedLabel? a := by
  cases a with
  | nil => rfl
  | cons c rest =>
      by_cases hc : c = '#'
      · have hquote : isLabelChar '"' = false := by decide
        have htake : (rest ++ ['"']).takeWhile isLabelChar = rest.takeWhile isLabelChar := by
          induction rest with
          | nil => simp [hquote]
          | cons d others ih =>
              cases hd : isLabelChar d <;> simp [hd, ih]
        simp [hc, definedLabel?, htake]
      · simp only [List.cons_append, definedLabel?_cons_of_ne hc]

theorem definedLabels_append_quote (a : List Char) :
    definedLabels (a ++ ['"']) = definedLabels a := by
  induction a using piece_induction ';' with
  | piece a ha =>
      have haquote : ';' ∉ a ++ ['"'] := by simp [ha]
      simp only [definedLabels, cut_of_not_mem ha, cut_of_not_mem haquote, List.filterMap_cons,
        definedLabel?_append_quote]
  | append a b _ ih =>
      simp only [List.append_assoc, List.cons_append, definedLabels_append_cons, ih]

/-- The labels that the commands of a text behind its first semicolon define. -/
def labelsBehind (text : List Char) : List Label :=
  (cut ';' text).tail.filterMap definedLabel?

theorem labelsBehind_append_cons (ha : ';' ∉ a) :
    labelsBehind (a ++ ';' :: b) = definedLabels b := by
  simp [labelsBehind, definedLabels, cut_append_cons_of_not_mem ha]

theorem labelsBehind_append_quote (a : List Char) : labelsBehind (a ++ ['"']) = labelsBehind a := by
  cases a using piece_induction ';' with
  | piece a ha =>
      have haquote : ';' ∉ a ++ ['"'] := by simp [ha]
      simp [labelsBehind, cut_of_not_mem ha, cut_of_not_mem haquote]
  | append a b ha _ =>
      simp only [List.append_assoc, List.cons_append, labelsBehind_append_cons ha,
        definedLabels_append_quote]

/-- Behind a command that is no label only the commands behind its first semicolon count. -/
theorem definedLabels_append (ha : ';' ∉ a) (hnone : ∀ text, definedLabel? (a ++ text) = none)
    (b : List Char) : definedLabels (a ++ b) = labelsBehind b := by
  cases b using piece_induction ';' with
  | piece b hb =>
      have hab : ';' ∉ a ++ b := by simp [ha, hb]
      simp [definedLabels, labelsBehind, cut_of_not_mem hab, cut_of_not_mem hb, hnone]
  | append first rest hfirst _ =>
      have hafirst : ';' ∉ a ++ first := by simp [ha, hfirst]
      simp only [← List.append_assoc, labelsBehind_append_cons hfirst, definedLabels_append_cons]
      simp [definedLabels, cut_of_not_mem hafirst, hnone]

/-- A filled routine defines its own label and those of the name. -/
theorem definedLabels_initRoutine (name : List Char) (hhash : ';' ∉ hash) :
    definedLabels (initRoutine name hash) = "#xINIT".toList :: labelsBehind name := by
  have hroutine : initRoutine name hash =
      "#xINIT".toList ++ ';' :: (("xPrgName=\"".toList ++ (name ++ ['"'])) ++
        ';' :: (("xPrgHash=".toList ++ hash) ++ ';' :: "xAPIOk=0;EN".toList)) := by
    have hfront : "#xINIT;xPrgName=\"".toList = "#xINIT".toList ++ ';' :: "xPrgName=\"".toList := by
      decide
    have hmiddle : "\";xPrgHash=".toList = '"' :: ';' :: "xPrgHash=".toList := by decide
    have hend : ";xAPIOk=0;EN".toList = ';' :: "xAPIOk=0;EN".toList := by decide
    unfold initRoutine
    simp only [hfront, hmiddle, hend, List.append_assoc, List.cons_append, List.nil_append]
  have hlabel : definedLabels "#xINIT".toList = ["#xINIT".toList] := by decide
  have hname : definedLabels ("xPrgName=\"".toList ++ (name ++ ['"'])) = labelsBehind name := by
    have hnone : ∀ text, definedLabel? ("xPrgName=\"".toList ++ text) = none := fun _ => rfl
    simp only [definedLabels_append (by decide) hnone, labelsBehind_append_quote]
  have hdigest : definedLabels ("xPrgHash=".toList ++ hash) = [] := by
    have hnone : ∀ text, definedLabel? ("xPrgHash=".toList ++ text) = none := fun _ => rfl
    simp only [definedLabels_append (by decide) hnone]
    simp [labelsBehind, cut_of_not_mem hhash]
  have hrest : definedLabels "xAPIOk=0;EN".toList = [] := by decide
  simp only [hroutine, definedLabels_append_cons, hlabel, hname, hdigest, hrest,
    List.append_nil, List.singleton_append]

/-! ## What a stamp changes -/

/-- The text breaks no line and defines no label where it is written as a name. -/
structure IsPlainName (name : List Char) : Prop where
  newline : '\n' ∉ name
  labels : ∀ command ∈ (cut ';' name).tail, definedLabel? command = none

instance : DecidablePred IsPlainName := fun name =>
  decidable_of_iff ('\n' ∉ name ∧ ∀ command ∈ (cut ';' name).tail, definedLabel? command = none)
    ⟨fun h => ⟨h.1, h.2⟩, fun h => ⟨h.newline, h.labels⟩⟩

theorem IsPlainName.labelsBehind_eq (h : IsPlainName name) : labelsBehind name = [] :=
  List.filterMap_eq_nil_iff.2 h.labels

/-- There are as many lines as before, with the same labels, and all lines but the stubs are as they
were. -/
structure ChangesOnlyStubs (before after : List (List Char)) : Prop where
  length : after.length = before.length
  labels : after.map definedLabels = before.map definedLabels
  others : ∀ (place : Nat) line, before[place]? = some line → ¬IsStub line →
    after[place]? = some line

theorem definedLabels_stampLine (hname : line = initStub → IsPlainName name) (hhash : ';' ∉ hash) :
    definedLabels (stampLine name hash line) = definedLabels line := by
  by_cases hstub : IsStub line
  · rcases hstub with rfl | rfl
    · have hlabels : definedLabels initStub = ["#xINIT".toList] := by decide
      simp only [stampLine_initStub, definedLabels_initRoutine name hhash,
        (hname rfl).labelsBehind_eq, hlabels]
    · simp only [stampLine_answerStub]
      decide
  · simp only [stampLine_of_not_isStub hstub]

/-- Lines that are not broken change only where they are stubs. -/
theorem changesOnlyStubs_map (hname : initStub ∈ lines → IsPlainName name) (hhash : ';' ∉ hash) :
    ChangesOnlyStubs lines (lines.map (stampLine name hash)) where
  length := List.length_map _
  labels := by
    simp only [List.map_map]
    apply List.map_congr_left
    intro line hline
    exact definedLabels_stampLine (fun heq => hname (heq ▸ hline)) hhash
  others := by
    intro place line hplace hstub
    simp [hplace, stampLine_of_not_isStub hstub]

/-! ## Lines that a name breaks -/

theorem length_le_length_flatMap {α β : Type} {f : α → List β} (hne : ∀ x, f x ≠ [])
    (xs : List α) : xs.length ≤ (xs.flatMap f).length := by
  induction xs with
  | nil => exact Nat.le_refl _
  | cons x rest ih =>
      have hx : 0 < (f x).length := List.length_pos_of_ne_nil (hne x)
      simp only [List.flatMap_cons, List.length_cons, List.length_append]
      omega

/-- Lists that are not empty are as many together as they are only if each is a single thing. -/
theorem length_eq_one_of_length_flatMap {α β : Type} {f : α → List β} (hne : ∀ x, f x ≠ [])
    {xs : List α} (h : (xs.flatMap f).length = xs.length) : ∀ x ∈ xs, (f x).length = 1 := by
  induction xs with
  | nil => simp
  | cons x rest ih =>
      have hx : 0 < (f x).length := List.length_pos_of_ne_nil (hne x)
      have hrest := length_le_length_flatMap hne rest
      simp only [List.flatMap_cons, List.length_cons, List.length_append] at h
      simp only [List.forall_mem_cons]
      exact ⟨by omega, ih (by omega)⟩

theorem newline_not_mem_initRoutine_iff (hhash : '\n' ∉ hash) :
    '\n' ∉ initRoutine name hash ↔ '\n' ∉ name := by
  have hopens : '\n' ∉ "#xINIT;xPrgName=\"".toList := by decide
  have hcloses : '\n' ∉ "\";xPrgHash=".toList := by decide
  have hends : '\n' ∉ ";xAPIOk=0;EN".toList := by decide
  unfold initRoutine
  simp only [List.mem_append, hopens, hcloses, hends, hhash, false_or, or_false]

/-- As long as the name breaks no routine, each line becomes one line. -/
theorem cut_stamp_eq_map {name : String}
    (hname : initStub ∈ cut '\n' program.toList → '\n' ∉ name.toList) :
    cut '\n' (stamp program name cell.written).toList =
      (cut '\n' program.toList).map (stampLine name.toList cell.written.toList) := by
  have hone : ∀ line ∈ cut '\n' program.toList,
      cut '\n' (stampLine name.toList cell.written.toList line) =
        [stampLine name.toList cell.written.toList line] := by
    intro line hline
    apply cut_of_not_mem
    by_cases hstub : IsStub line
    · rcases hstub with rfl | rfl
      · simp only [stampLine_initStub]
        exact (newline_not_mem_initRoutine_iff (newline_not_mem_cell cell)).2 (hname hline)
      · simp only [stampLine_answerStub]
        decide
    · simp only [stampLine_of_not_isStub hstub]
      exact not_mem_of_mem_cut hline
  calc
    cut '\n' (stamp program name cell.written).toList
        = (cut '\n' program.toList).flatMap fun line =>
            cut '\n' (stampLine name.toList cell.written.toList line) := cut_stamp _ _ _
    _ = (cut '\n' program.toList).flatMap fun line =>
            [stampLine name.toList cell.written.toList line] := List.flatMap_congr hone
    _ = (cut '\n' program.toList).map (stampLine name.toList cell.written.toList) :=
            List.map_eq_flatMap.symm

/-- A stamp that leaves the number of lines breaks no routine. -/
theorem newline_not_mem_of_length_stamp {name : String}
    (hlength : (cut '\n' (stamp program name cell.written).toList).length =
      (cut '\n' program.toList).length)
    (hmem : initStub ∈ cut '\n' program.toList) : '\n' ∉ name.toList := by
  simp only [cut_stamp] at hlength
  have hone := length_eq_one_of_length_flatMap (fun _ => cut_ne_nil '\n' _) hlength initStub hmem
  simp only [stampLine_initStub, length_cut, Nat.add_eq_right] at hone
  exact (newline_not_mem_initRoutine_iff (newline_not_mem_cell cell)).1
    (List.count_eq_zero.1 hone)

/-- Stamping changes nothing but the stubs, and it leaves none for another stamp, whatever program
the digest is of. The lines and labels stay exactly if there is no stub for the name or the name is
plain. -/
theorem stamp_changes_only_stubs (source program name : String)
    (hname : byteLength name.toList ≤ StringCell.capacity) :
    ∃ hash, programHash source = .ok hash ∧
      stamp (stamp program name hash) name hash = stamp program name hash ∧
        (ChangesOnlyStubs (cut '\n' program.toList) (cut '\n' (stamp program name hash).toList) ↔
          (initStub ∈ cut '\n' program.toList → IsPlainName name.toList)) := by
  rcases exists_cell_programHash source with ⟨cell, hcell⟩
  refine ⟨cell.written, hcell, stamp_stamp hname, ?_, ?_⟩
  · intro hchanges hmem
    have hnewline := newline_not_mem_of_length_stamp hchanges.length hmem
    have hlabels := hchanges.labels
    simp only [cut_stamp_eq_map fun _ => hnewline, List.map_map] at hlabels
    -- The filled routine defines the labels of the name beside its own.
    have hstub := List.map_inj_left.1 hlabels initStub hmem
    simp only [Function.comp_apply, stampLine_initStub,
      definedLabels_initRoutine _ (semicolon_not_mem_cell cell)] at hstub
    have hbehind : labelsBehind name.toList = [] := (List.cons.inj hstub).2
    exact ⟨hnewline, List.filterMap_eq_nil_iff.1 hbehind⟩
  · intro hplain
    simp only [cut_stamp_eq_map fun hmem => (hplain hmem).newline]
    exact changesOnlyStubs_map hplain (semicolon_not_mem_cell cell)

theorem stamp_changes_only_stubs_pump :
    byteLength "pump".toList ≤ StringCell.capacity ∧
      ∃ hash, programHash "#xINIT;EN" = .ok hash ∧
        ChangesOnlyStubs (cut '\n' "#AUTO;EN\n#xINIT;EN".toList)
          (cut '\n' (stamp "#AUTO;EN\n#xINIT;EN" "pump" hash).toList) := by
  rcases stamp_changes_only_stubs "#xINIT;EN" "#AUTO;EN\n#xINIT;EN" "pump" (by decide) with
    ⟨hash, hhash, _, hchanges⟩
  exact ⟨by decide, hash, hhash, hchanges.2 fun _ => by decide⟩

/-- A name may break a line, or define a label of its own. -/
theorem stamp_changes_lines_and_labels :
    programHash "#xINIT;EN" = .ok "$36326165.3139" ∧
      (byteLength "a\nb".toList ≤ StringCell.capacity ∧
        ¬ChangesOnlyStubs (cut '\n' "#xINIT;EN".toList)
          (cut '\n' (stamp "#xINIT;EN" "a\nb" "$36326165.3139").toList)) ∧
      (byteLength ";#a".toList ≤ StringCell.capacity ∧
        ¬ChangesOnlyStubs (cut '\n' "#xINIT;EN".toList)
          (cut '\n' (stamp "#xINIT;EN" ";#a" "$36326165.3139").toList)) := by
  have hhash : programHash "#xINIT;EN" = .ok "$36326165.3139" :=
    StringCell.encode_eq_ok_iff.2 (by decide +kernel)
  refine ⟨hhash, ⟨by decide, ?_⟩, by decide, ?_⟩
  · intro hchanges
    exact absurd hchanges.length (by decide)
  · intro hchanges
    exact absurd hchanges.labels (by decide)

end Program
end MotionController
