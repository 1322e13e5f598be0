import MotionController.Proofs.Program.Pass

/-!
# The commands of a program

`commandsOf` lists the commands of a program text, line by line: what stands before the first
comment of a line, without the blanks whose nearest neighbour is an operator, cut at semicolons. A
pass over the lines keeps that list (`flatMap_lineCommands_pass`), and so does collapsing
semicolons, even over line ends (`map_lineCommands_cut_collapseSemicolons`). Hence minification
neither loses, repeats, moves nor changes a command (`commandsOf_minify`).
-/

namespace MotionController
namespace Program

open Text

variable {limit fuel : Nat} {a b w s t text line : Line} {lines : List Line}

/-! ## The view -/

/-- The nearest character that is not blank is an operator. -/
def nearestIsOperator (text : Line) : Bool :=
  (text.find? fun c => !isBlank c).any isOperator

/-- The text without the blanks that have an operator on either side, other blanks aside; `before`
is what stands before the text, nearest character first. -/
def dropIdleBlanks (before : Line) : Line → Line
  | [] => []
  | c :: rest =>
      if isBlank c && (nearestIsOperator before || nearestIsOperator rest) then
        dropIdleBlanks (c :: before) rest
      else
        c :: dropIdleBlanks (c :: before) rest

/-- The line up to its first comment, whose semicolon goes with it. -/
def beforeComment (line : Line) : Line :=
  join ';' ((cut ';' line).takeWhile fun command => !opensComment command)

/-- The trimmed pieces of a line between semicolons, without empty ones. -/
def trimmedPieces (line : Line) : List Line :=
  ((cut ';' line).map trim).filter fun command => !command.isEmpty

/-- The commands of a line. -/
def lineCommands (line : Line) : List Line :=
  trimmedPieces (dropIdleBlanks [] (beforeComment line))

/-- The commands of a program text. -/
def commandsOf (content : String) : List Line :=
  (cut '\n' content.toList).flatMap lineCommands

example : commandsOf "x = 1 ; ;y;REM a;b\n IF ( x )" = ["x=1", "y", "IF(x)"].map String.toList := by
  decide +kernel

theorem nearestIsOperator_cons_of_blank {c : Char} (hc : isBlank c = true) :
    nearestIsOperator (c :: text) = nearestIsOperator text := by
  simp [nearestIsOperator, hc]

theorem nearestIsOperator_cons_of_not_blank {c : Char} (hc : isBlank c = false) :
    nearestIsOperator (c :: text) = isOperator c := by
  simp [nearestIsOperator, hc]

theorem nearestIsOperator_eq_operatorFollows (text : Line) :
    nearestIsOperator text = operatorFollows text := by
  induction text with
  | nil => rfl
  | cons c rest ih =>
      cases hc : isBlank c with
      | true =>
          simpa [nearestIsOperator_cons_of_blank hc, operatorFollows_cons_of_blank hc] using ih
      | false =>
          simp [nearestIsOperator_cons_of_not_blank hc, operatorFollows_cons_of_not_blank hc]

theorem dropIdleBlanks_eq_tightenAfter (before text : Line) :
    dropIdleBlanks before text = tightenAfter (nearestIsOperator before) text := by
  induction text generalizing before with
  | nil => rfl
  | cons c rest ih =>
      cases hc : isBlank c with
      | true =>
          have hbefore : nearestIsOperator (c :: before) = nearestIsOperator before :=
            nearestIsOperator_cons_of_blank hc
          simp only [dropIdleBlanks, tightenAfter, hc, if_true, Bool.true_and, ih, hbefore,
            nearestIsOperator_eq_operatorFollows rest]
          split
          · rfl
          · next hkept =>
              simp only [Bool.or_eq_true, not_or, Bool.not_eq_true] at hkept
              simp only [hkept.1]
      | false =>
          have hbefore : nearestIsOperator (c :: before) = isOperator c :=
            nearestIsOperator_cons_of_not_blank hc
          simp [dropIdleBlanks, tightenAfter, hc, ih, hbefore]

/-- The commands of a line are the pieces of its short form before trimming. -/
theorem lineCommands_eq_trimmedPieces (line : Line) :
    lineCommands line = trimmedPieces (tighten (cutComment line)) := by
  have hdrop := dropIdleBlanks_eq_tightenAfter [] (cutComment line)
  have hcomment : beforeComment line = cutComment line := (cutComment_eq_join line).symm
  unfold lineCommands
  simp only [hcomment, hdrop]
  rfl

/-! ## Pieces -/

theorem trimmedPieces_append_cons (a b : Line) :
    trimmedPieces (a ++ ';' :: b) = trimmedPieces a ++ trimmedPieces b := by
  simp [trimmedPieces, cut_append_cons]

theorem trimmedPieces_of_allBlank (hw : AllBlank w) : trimmedPieces w = [] := by
  simp [trimmedPieces, cut_of_not_mem (AllBlank.semicolon_not_mem hw), trim_of_allBlank hw]

theorem trimmedPieces_append_of_allBlank (hw : AllBlank w) :
    trimmedPieces (a ++ w) = trimmedPieces a := by
  induction a using piece_induction ';' with
  | piece a ha =>
      have haw : ';' ∉ a ++ w := by
        simpa [ha] using AllBlank.semicolon_not_mem hw
      simp [trimmedPieces, cut_of_not_mem ha, cut_of_not_mem haw, trim_append_of_allBlank hw]
  | append a b _ ih =>
      have hassoc : (a ++ ';' :: b) ++ w = a ++ ';' :: (b ++ w) := by simp
      simp only [hassoc, trimmedPieces_append_cons, ih]

theorem trimmedPieces_of_allBlank_append (hw : AllBlank w) :
    trimmedPieces (w ++ a) = trimmedPieces a := by
  -- The blanks stand before the first piece only.
  have hpiece : ∀ p, ';' ∉ p → trimmedPieces (w ++ p) = trimmedPieces p := by
    intro p hp
    have hwp : ';' ∉ w ++ p := by
      simpa [hp] using AllBlank.semicolon_not_mem hw
    simp [trimmedPieces, cut_of_not_mem hp, cut_of_not_mem hwp, trim_of_allBlank_append hw]
  cases a using piece_induction ';' with
  | piece a ha => exact hpiece a ha
  | append a b ha _ =>
      rw [← List.append_assoc, trimmedPieces_append_cons, trimmedPieces_append_cons, hpiece a ha]

theorem trimmedPieces_trim (text : Line) : trimmedPieces (trim text) = trimmedPieces text := by
  rcases exists_allBlank_append_trimStart text with ⟨w, hw, htext⟩
  rcases exists_trimEnd_append_allBlank (trimStart text) with ⟨v, hv, hstart⟩
  calc
    trimmedPieces (trim text) = trimmedPieces (trimEnd (trimStart text) ++ v) :=
      (trimmedPieces_append_of_allBlank hv).symm
    _ = trimmedPieces (w ++ trimStart text) := by
      simp only [← hstart, trimmedPieces_of_allBlank_append hw]
    _ = trimmedPieces text := by rw [← htext]

theorem trimmedPieces_dropsSemicolon (h : DropsSemicolon s t) :
    trimmedPieces t = trimmedPieces s := by
  cases h with
  | drop a w b hw =>
      have hassoc : a ++ (w ++ ';' :: b) = (a ++ w) ++ ';' :: b := by simp
      simp only [hassoc]
      simp only [trimmedPieces_append_cons, trimmedPieces_append_of_allBlank hw,
        trimmedPieces_of_allBlank hw, List.nil_append]

theorem trimmedPieces_nil : trimmedPieces [] = [] := rfl

theorem trimmedPieces_tidy (line : Line) : trimmedPieces (tidy line) = trimmedPieces line := by
  apply tidy_invariant (P := fun text => trimmedPieces text = trimmedPieces line)
  · intro s t hdrop hs
    exact (trimmedPieces_dropsSemicolon hdrop).trans hs
  · intro a ha
    simpa only [trimmedPieces_append_cons, trimmedPieces_nil, List.append_nil] using ha
  · rfl

/-! ## Passes keep the commands -/

theorem trimmedPieces_compact (line : Line) : trimmedPieces (compact line) = lineCommands line := by
  simp only [lineCommands_eq_trimmedPieces]
  exact trimmedPieces_trim _

theorem IsCompact.lineCommands_eq (h : IsCompact line) :
    lineCommands line = trimmedPieces line := by
  have hcompact := trimmedPieces_compact line
  simp only [h.compact_eq] at hcompact
  exact hcompact.symm

/-- Lines off which nothing is read make no difference. -/
theorem flatMap_filter_eq {keeps : Line → Bool} {view : Line → List Line}
    (hview : ∀ line, keeps line = false → view line = []) (lines : List Line) :
    (lines.filter keeps).flatMap view = lines.flatMap view := by
  induction lines with
  | nil => rfl
  | cons line rest ih =>
      cases h : keeps line with
      | true => simp [h, ih]
      | false => simp [h, hview line h, ih]

theorem flatMap_filter_ne_nil {view : Line → List Line} (hview : view [] = [])
    (lines : List Line) :
    (lines.filter fun line => !line.isEmpty).flatMap view = lines.flatMap view := by
  apply flatMap_filter_eq
  intro line hline
  have hnil : line = [] := by simpa using hline
  simpa only [hnil] using hview

/-- A pass keeps the commands. -/
theorem flatMap_lineCommands_pass (limit : Nat) (lines : List Line) :
    (pass limit lines).flatMap lineCommands = lines.flatMap lineCommands := by
  -- Short forms and tidying keep the commands of a line, packing those of neighbours.
  have hpacks := (packs_pass limit lines).flatMap_eq trimmedPieces_append_cons
  calc
    (pass limit lines).flatMap lineCommands
        = (pass limit lines).flatMap trimmedPieces := by
            apply List.flatMap_congr
            intro line hline
            exact (isPacked_of_mem_pass hline).lineCommands_eq
    _ = (squash limit (merge limit (compactAll lines))).flatMap trimmedPieces := by
            simp [pass, tidyAll, flatMap_filter_ne_nil trimmedPieces_nil, List.flatMap_map,
              trimmedPieces_tidy]
    _ = (compactAll lines).flatMap trimmedPieces := hpacks
    _ = lines.flatMap lineCommands := by
            simp [compactAll, flatMap_filter_ne_nil trimmedPieces_nil, List.flatMap_map,
              trimmedPieces_compact]

theorem flatMap_lineCommands_minifyLines (limit : Nat) (lines : List Line) :
    (minifyLines limit lines).flatMap lineCommands = lines.flatMap lineCommands := by
  apply minifyLines_invariant
    (P := fun packed => packed.flatMap lineCommands = lines.flatMap lineCommands)
  · intro packed hpacked
    exact (flatMap_lineCommands_pass limit packed).trans hpacked
  · exact flatMap_lineCommands_pass limit lines

theorem lineCommands_nil : lineCommands [] = [] := rfl

theorem commandsOf_minify_eq (limit : Nat) (content : String) :
    commandsOf (minify limit content) = commandsOf content := by
  have hlines : commandsOf (minify limit content) =
      (minified limit content).flatMap lineCommands := by
    unfold commandsOf
    simp only [cut_minify]
    split
    · next h => simp [h, lineCommands_nil]
    · rfl
  simp only [hlines]
  exact flatMap_lineCommands_minifyLines limit _

/-! ## Collapsing semicolons keeps the commands -/

theorem lineCommands_eq_map_keptCommands (line : Line) :
    lineCommands line =
      ((keptCommands line).map fun command => trim (tighten command)).filter
        fun command => !command.isEmpty := by
  simp only [lineCommands_eq_trimmedPieces, trimmedPieces, map_trim_cut_tighten]
  -- A line that is all comment keeps no command, but its empty rest is still one piece.
  by_cases h : keptCommands line = []
  · simp [cutComment_eq_join, h, join, tighten, tightenAfter, trim, trimStart]
  · simp only [cut_cutComment h]

theorem lineCommands_append_cons (a b : Line) :
    lineCommands (a ++ ';' :: b) =
      if CommentFree a then lineCommands a ++ lineCommands b else lineCommands a := by
  simp only [lineCommands_eq_map_keptCommands, keptCommands_append_cons]
  split
  · next h => simp [keptCommands_eq_cut h]
  · rfl

theorem lineCommands_append_of_allBlank (hw : AllBlank w) :
    lineCommands (a ++ w) = lineCommands a := by
  induction a using piece_induction ';' with
  | piece a ha =>
      have haw : ';' ∉ a ++ w := by
        simpa [ha] using AllBlank.semicolon_not_mem hw
      have hopens : opensComment (a ++ w) = opensComment a :=
        opensComment_congr (firstWord_append_of_allBlank hw)
      cases h : opensComment a <;>
        simp [lineCommands_eq_map_keptCommands, keptCommands_of_not_mem ha,
          keptCommands_of_not_mem haw, hopens, h, trim_tighten_append_of_allBlank hw]
  | append a b _ ih =>
      have hassoc : (a ++ ';' :: b) ++ w = a ++ ';' :: (b ++ w) := by simp
      simp only [hassoc, lineCommands_append_cons, ih]

theorem lineCommands_of_allBlank (hw : AllBlank w) : lineCommands w = [] :=
  (lineCommands_append_of_allBlank (a := []) hw).trans lineCommands_nil

theorem lineCommands_append_semicolon_of_allBlank (hw : AllBlank w) :
    lineCommands (a ++ ';' :: w) = lineCommands (a ++ w) := by
  simp [lineCommands_append_cons, lineCommands_of_allBlank hw, lineCommands_append_of_allBlank hw]

theorem lineCommands_dropsSemicolon (h : DropsSemicolon s t) :
    lineCommands s = lineCommands t := by
  cases h with
  | drop a w b hw =>
      have hassoc : a ++ (w ++ ';' :: b) = (a ++ w) ++ ';' :: b := by simp
      simp only [hassoc]
      simp only [lineCommands_append_cons, lineCommands_of_allBlank hw, commentFree_of_allBlank hw,
        lineCommands_append_of_allBlank hw, commentFree_append_of_allBlank hw, if_true,
        List.nil_append]

/-- What is read off single lines stays the same over the whole text when one semicolon is dropped,
be the next semicolon on the same line or on a later one. -/
theorem map_cut_dropsSemicolon {α : Type} {view : Line → α} (h : DropsSemicolon s t)
    (hinner : ∀ s t, DropsSemicolon s t → view s = view t)
    (hend : ∀ a w, AllBlank w → view (a ++ ';' :: w) = view (a ++ w)) :
    (cut '\n' s).map view = (cut '\n' t).map view := by
  cases h with
  | drop a w b hw =>
      induction a using piece_induction '\n' with
      | append a₀ a _ ih =>
          simpa [cut_append_cons] using ih
      | piece a ha =>
          cases w using piece_induction '\n' with
          | append w₀ w hw₀ _ =>
              -- The next semicolon is on a later line.
              have hblank : AllBlank w₀ := fun c hc => hw c (List.mem_append_left _ hc)
              have hline : '\n' ∉ a ++ ';' :: w₀ := by simp [ha, hw₀]
              have hline' : '\n' ∉ a ++ w₀ := by simp [ha, hw₀]
              have hassoc : a ++ ';' :: ((w₀ ++ '\n' :: w) ++ ';' :: b) =
                  (a ++ ';' :: w₀) ++ '\n' :: (w ++ ';' :: b) := by simp
              have hassoc' : a ++ ((w₀ ++ '\n' :: w) ++ ';' :: b) =
                  (a ++ w₀) ++ '\n' :: (w ++ ';' :: b) := by simp
              rw [hassoc, hassoc', cut_append_cons_of_not_mem hline,
                cut_append_cons_of_not_mem hline']
              simp [hend a w₀ hblank]
          | piece w hnl =>
              cases b using piece_induction '\n' with
              | piece b hb =>
                  have hline : '\n' ∉ a ++ ';' :: (w ++ ';' :: b) := by simp [ha, hnl, hb]
                  have hline' : '\n' ∉ a ++ (w ++ ';' :: b) := by simp [ha, hnl, hb]
                  simp only [cut_of_not_mem hline, cut_of_not_mem hline']
                  simpa using hinner _ _ (.drop a w b hw)
              | append b₀ b hb₀ _ =>
                  have hline : '\n' ∉ a ++ ';' :: (w ++ ';' :: b₀) := by simp [ha, hnl, hb₀]
                  have hline' : '\n' ∉ a ++ (w ++ ';' :: b₀) := by simp [ha, hnl, hb₀]
                  have hassoc : a ++ ';' :: (w ++ ';' :: (b₀ ++ '\n' :: b)) =
                      (a ++ ';' :: (w ++ ';' :: b₀)) ++ '\n' :: b := by simp
                  have hassoc' : a ++ (w ++ ';' :: (b₀ ++ '\n' :: b)) =
                      (a ++ (w ++ ';' :: b₀)) ++ '\n' :: b := by simp
                  rw [hassoc, hassoc', cut_append_cons_of_not_mem hline,
                    cut_append_cons_of_not_mem hline']
                  simpa using hinner _ _ (.drop a w b₀ hw)

/-- What a redundant semicolon and one before blanks make no difference to is read off the lines of
a text as before it was collapsed. -/
theorem map_cut_collapseSemicolons {α : Type} {view : Line → α}
    (hinner : ∀ s t, DropsSemicolon s t → view s = view t)
    (hend : ∀ a w, AllBlank w → view (a ++ ';' :: w) = view (a ++ w)) (text : List Char) :
    (cut '\n' (collapseSemicolons text)).map view = (cut '\n' text).map view := by
  apply collapseSemicolons_invariant
    (P := fun t => (cut '\n' t).map view = (cut '\n' text).map view)
  · intro s t hdrop hs
    exact (map_cut_dropsSemicolon hdrop hinner hend).symm.trans hs
  · rfl

theorem map_lineCommands_cut_collapseSemicolons (text : List Char) :
    (cut '\n' (collapseSemicolons text)).map lineCommands = (cut '\n' text).map lineCommands :=
  map_cut_collapseSemicolons (fun _ _ => lineCommands_dropsSemicolon)
    (fun _ _ => lineCommands_append_semicolon_of_allBlank) text

theorem commandsOf_prepare (rendered : String) :
    commandsOf (prepare rendered) = commandsOf rendered := by
  have hmap := map_lineCommands_cut_collapseSemicolons rendered.toList
  unfold commandsOf prepare
  simp only [String.toList_ofList, List.flatMap_def, hmap]

/-- Minification neither loses, repeats, moves nor changes a command, whether or not the text was
cleared of redundant semicolons first. -/
theorem commandsOf_minify (limit : Nat) (content : String) :
    commandsOf (minify limit content) = commandsOf content ∧
      commandsOf (minify limit (prepare content)) = commandsOf content := by
  constructor
  · exact commandsOf_minify_eq limit content
  · calc
      commandsOf (minify limit (prepare content)) = commandsOf (prepare content) :=
        commandsOf_minify_eq limit (prepare content)
      _ = commandsOf content := commandsOf_prepare content

end Program
end MotionController
