import Mathlib.Algebra.Group.Nat.Even
import MotionController.Program.Lint
import MotionController.Proofs.Program.ShortForm

/-!
# Laws of string literals

A line that closes its literals is text without quotes, or such a text and a literal in quotes with
another such line behind (`literal_induction`). So the literals of two such lines side by side are
those of both (`literals_append`), and what a pass does to a line it does to each literal apart:
tightening (`literals_tighten`), trimming (`literals_trim`) and tidying (`literals_tidy`).
-/

namespace MotionController
namespace Program

open Text

variable {a b w l line : Line}

/-! ## Closed literals -/

/-- The quotes of the line come in pairs. -/
def ClosesLiterals (line : Line) : Prop :=
  Even (line.count '"')

instance : DecidablePred ClosesLiterals := fun line =>
  inferInstanceAs (Decidable (Even (line.count '"')))

theorem isPlain_quote : isPlain '"' = true := by
  decide

theorem isBlank_quote : isBlank '"' = false := by
  decide

theorem closesLiterals_of_not_mem (ha : '"' ∉ a) : ClosesLiterals a := by
  simp [ClosesLiterals, List.count_eq_zero_of_not_mem ha]

theorem quote_mem_of_open (ha : ¬ClosesLiterals a) : '"' ∈ a := by
  by_contra hnot
  exact ha (closesLiterals_of_not_mem hnot)

/-- Behind a semicolon a line without open literals changes nothing. -/
theorem closesLiterals_pack_iff (hb : ClosesLiterals b) :
    ClosesLiterals (a ++ ';' :: b) ↔ ClosesLiterals a := by
  unfold ClosesLiterals at *
  simp [Nat.even_add, hb]

theorem ClosesLiterals.pack (ha : ClosesLiterals a) (hb : ClosesLiterals b) :
    ClosesLiterals (a ++ ';' :: b) :=
  (closesLiterals_pack_iff hb).2 ha

theorem ClosesLiterals.congr (ha : ClosesLiterals a) (h : b.count '"' = a.count '"') :
    ClosesLiterals b := by
  unfold ClosesLiterals at *
  simpa only [h] using ha

theorem quote_not_mem_of_allBlank (hw : AllBlank w) : '"' ∉ w :=
  hw.not_mem isBlank_quote

theorem closesLiterals_quoted (ha : '"' ∉ a) (hl : '"' ∉ l) (hb : ClosesLiterals b) :
    ClosesLiterals (a ++ '"' :: (l ++ '"' :: b)) := by
  have hcount : (a ++ '"' :: (l ++ '"' :: b)).count '"' = b.count '"' + 1 + 1 := by
    simp [List.count_eq_zero_of_not_mem ha, List.count_eq_zero_of_not_mem hl]
  unfold ClosesLiterals at *
  simpa only [hcount, Nat.even_add_one, not_not] using hb

/-- A line that closes its literals is text without quotes, or such a text with a literal and
another such line behind it. -/
@[elab_as_elim]
theorem literal_induction {motive : (line : Line) → ClosesLiterals line → Prop}
    (plain : ∀ a (ha : '"' ∉ a), motive a (closesLiterals_of_not_mem ha))
    (quoted : ∀ a l b (ha : '"' ∉ a) (hl : '"' ∉ l) (hb : ClosesLiterals b), motive b hb →
      motive (a ++ '"' :: (l ++ '"' :: b)) (closesLiterals_quoted ha hl hb))
    (line : Line) (h : ClosesLiterals line) : motive line h := by
  -- Behind an opening quote the number of quotes is odd, and a closing one comes next.
  have hboth : (∀ h : ClosesLiterals line, motive line h) ∧
      (¬ClosesLiterals line → ∀ a, '"' ∉ a →
        ∀ h : ClosesLiterals (a ++ '"' :: line), motive (a ++ '"' :: line) h) := by
    clear h
    induction line using piece_induction '"' with
    | piece l hl =>
        refine ⟨fun _ => plain l hl, fun hopen => ?_⟩
        exact absurd (closesLiterals_of_not_mem hl) hopen
    | append l b hl ih =>
        have hcount : ClosesLiterals (l ++ '"' :: b) ↔ ¬ClosesLiterals b := by
          simp [ClosesLiterals, List.count_eq_zero_of_not_mem hl, Nat.even_add_one]
        refine ⟨fun hclosed => ih.2 (hcount.1 hclosed) l hl hclosed, fun hopen a ha _ => ?_⟩
        have hb : ClosesLiterals b := not_not.1 fun hopen' => hopen (hcount.2 hopen')
        exact quoted a l b ha hl hb (ih.1 hb)
  exact hboth.1 h

/-! ## The literals of a line -/

theorem literals_of_not_mem (ha : '"' ∉ a) : literals a = [] := by
  simp [literals, cut_of_not_mem ha, oddPieces]

theorem literals_quoted (ha : '"' ∉ a) (hl : '"' ∉ l) :
    literals (a ++ '"' :: (l ++ '"' :: b)) = l :: literals b := by
  simp [literals, cut_append_cons_of_not_mem ha, cut_append_cons_of_not_mem hl, oddPieces]

theorem literals_append_of_not_mem (ha : '"' ∉ a) : literals (a ++ b) = literals b := by
  cases b using piece_induction '"' with
  | piece b hb =>
      have hab : '"' ∉ a ++ b := by simp [ha, hb]
      simp only [literals_of_not_mem hab, literals_of_not_mem hb]
  | append p rest hp _ =>
      have hap : '"' ∉ a ++ p := by simp [ha, hp]
      -- The text joins the first piece, which is no literal.
      have hcut : cut '"' (a ++ (p ++ '"' :: rest)) = (a ++ p) :: cut '"' rest := by
        simpa using cut_append_cons_of_not_mem (b := rest) hap
      simp only [literals, hcut, cut_append_cons_of_not_mem hp]
      cases cut '"' rest <;> rfl

theorem literals_append (ha : ClosesLiterals a) (b : Line) :
    literals (a ++ b) = literals a ++ literals b := by
  induction a, ha using literal_induction with
  | plain a ha => simp [literals_append_of_not_mem ha, literals_of_not_mem ha]
  | quoted p l a hp hl _ ih =>
      have hassoc : (p ++ '"' :: (l ++ '"' :: a)) ++ b = p ++ '"' :: (l ++ '"' :: (a ++ b)) := by
        simp
      simp [hassoc, literals_quoted hp hl, ih]

/-- The literals of packed lines are those of both. -/
theorem literals_pack (ha : ClosesLiterals a) (b : Line) :
    literals (a ++ ';' :: b) = literals a ++ literals b := by
  have hsemicolon : '"' ∉ [';'] := by decide
  simpa [literals_append ha] using literals_append_of_not_mem (b := b) hsemicolon

theorem oddPieces_subset_tail (pieces : List (List Char)) : oddPieces pieces ⊆ pieces.tail := by
  induction pieces using oddPieces.induct with
  | case1 first piece pieces ih =>
      intro p hp
      simp only [oddPieces, List.mem_cons] at hp
      rcases hp with rfl | hp
      · exact List.mem_cons_self
      · exact List.mem_cons_of_mem piece (List.mem_of_mem_tail (ih hp))
  | case2 pieces h =>
      simp [oddPieces]

/-- A literal stands behind a quote, and before another one or at the end of the line. -/
theorem exists_of_mem_literals (hl : l ∈ literals line) :
    ∃ a b, line = a ++ '"' :: (l ++ b) ∧ (b = [] ∨ ∃ rest, b = '"' :: rest) :=
  exists_of_mem_tail_cut (oddPieces_subset_tail _ hl)

/-! ## What a pass does to literals -/

theorem literals_tighten (h : ClosesLiterals line) :
    literals (tighten line) = (literals line).map tighten := by
  have hquote : ∀ {text : Line}, '"' ∉ text → '"' ∉ tighten text :=
    fun htext hmem => htext ((tightenAfter_sublist false _).subset hmem)
  induction line, h using literal_induction with
  | plain a ha => simp [literals_of_not_mem ha, literals_of_not_mem (hquote ha)]
  | quoted a l b ha hl _ ih =>
      have htighten : tighten (a ++ '"' :: (l ++ '"' :: b)) =
          tighten a ++ '"' :: (tighten l ++ '"' :: tighten b) :=
        calc
          tighten (a ++ '"' :: (l ++ '"' :: b)) = tighten a ++ '"' :: tighten (l ++ '"' :: b) :=
            tightenAfter_append_of_plain isPlain_quote
          _ = tighten a ++ '"' :: (tighten l ++ '"' :: tighten b) :=
            congrArg _ (congrArg _ (tightenAfter_append_of_plain isPlain_quote))
      simp [htighten, literals_quoted (hquote ha) (hquote hl), literals_quoted ha hl, ih]

theorem literals_collapseSemicolons (h : ClosesLiterals line) :
    literals (collapseSemicolons line) = (literals line).map collapseSemicolons := by
  have hquote : ∀ {text : Line}, '"' ∉ text → '"' ∉ collapseSemicolons text :=
    fun htext hmem => htext ((collapseSemicolons_sublist _).subset hmem)
  have hne : '"' ≠ ';' := by decide
  induction line, h using literal_induction with
  | plain a ha => simp [literals_of_not_mem ha, literals_of_not_mem (hquote ha)]
  | quoted a l b ha hl _ ih =>
      simp [collapseSemicolons_append_cons isBlank_quote hne,
        literals_quoted (hquote ha) (hquote hl), literals_quoted ha hl, ih]

theorem ClosesLiterals.tighten (h : ClosesLiterals line) : ClosesLiterals (tighten line) := by
  refine h.congr ?_
  calc
    (Program.tighten line).count '"'
        = ((Program.tighten line).filter fun c => !isBlank c).count '"' :=
          (List.count_filter (by decide)).symm
    _ = (line.filter fun c => !isBlank c).count '"' :=
          congrArg _ (filter_solid_tightenAfter false line)
    _ = line.count '"' := List.count_filter (by decide)

theorem ClosesLiterals.trim (h : ClosesLiterals line) : ClosesLiterals (trim line) := by
  rcases exists_allBlank_append_trim line with ⟨w, v, hw, hv, hline⟩
  refine h.congr ?_
  conv_rhs => rw [hline]
  simp [List.count_eq_zero_of_not_mem (quote_not_mem_of_allBlank hw),
    List.count_eq_zero_of_not_mem (quote_not_mem_of_allBlank hv)]

theorem literals_trim (h : ClosesLiterals line) : literals (trim line) = literals line := by
  rcases exists_allBlank_append_trim line with ⟨w, v, hw, hv, hline⟩
  have hend : literals v = [] := literals_of_not_mem (quote_not_mem_of_allBlank hv)
  calc
    literals (trim line) = literals (trim line ++ v) := by simp [literals_append h.trim, hend]
    _ = literals (w ++ (trim line ++ v)) :=
          (literals_append_of_not_mem (quote_not_mem_of_allBlank hw)).symm
    _ = literals line := congrArg literals hline.symm

theorem ClosesLiterals.dropsSemicolon {s t : Line} (h : ClosesLiterals s)
    (hdrop : DropsSemicolon s t) : ClosesLiterals t := by
  cases hdrop with
  | drop a w b _ => exact h.congr (by simp)

theorem ClosesLiterals.collapseSemicolons (h : ClosesLiterals line) :
    ClosesLiterals (collapseSemicolons line) :=
  collapseSemicolons_invariant (fun _ _ hdrop hs => hs.dropsSemicolon hdrop) h

theorem ClosesLiterals.of_append_semicolon (h : ClosesLiterals (a ++ [';'])) :
    ClosesLiterals a :=
  h.congr (by simp)

theorem ClosesLiterals.tidy (h : ClosesLiterals line) : ClosesLiterals (tidy line) :=
  tidy_invariant (fun _ _ hdrop hs => hs.dropsSemicolon hdrop)
    (fun _ => ClosesLiterals.of_append_semicolon) h

theorem literals_dropTrailingSeparator (h : ClosesLiterals line) :
    literals (dropTrailingSeparator line) = literals line := by
  unfold dropTrailingSeparator
  split
  · next hlast =>
      rcases List.getLast?_eq_some_iff.1 hlast with ⟨a, rfl⟩
      have hpack := literals_pack h.of_append_semicolon []
      simpa [literals_of_not_mem] using hpack.symm
  · rfl

theorem literals_tidy (h : ClosesLiterals line) :
    literals (tidy line) = (literals line).map collapseSemicolons := by
  unfold tidy
  simp only [literals_dropTrailingSeparator h.collapseSemicolons, literals_collapseSemicolons h]

/-- The short form of a line without comment has the literals of the line, tightened. -/
theorem literals_compact (hfree : CommentFree line) (h : ClosesLiterals line) :
    literals (compact line) = (literals line).map tighten := by
  unfold compact
  simp only [hfree.cutComment_eq, literals_trim h.tighten, literals_tighten h]

theorem ClosesLiterals.compact (h : ClosesLiterals line) (hfree : CommentFree line) :
    ClosesLiterals (compact line) := by
  unfold Program.compact
  simpa only [hfree.cutComment_eq] using h.tighten.trim

end Program
end MotionController
