import MotionController.Proofs.Program.CommandView
import MotionController.Proofs.Program.Quotes

/-!
# String literals of minified programs

Minification does not know of quotes. In a program whose literals are closed and whose comments are
cut nowhere, it tightens and collapses each literal (`literals_minifyLines`). So the literals stay
as they are exactly when they are inert, that is, hold nothing that minification acts on
(`literals_minify_iff`).
-/

namespace MotionController
namespace Program

open Text

variable {limit : Nat} {line literal : Line} {lines : List Line}

/-! ## The view -/

/-- The string literals of a program text, line by line. -/
def literalsOf (content : String) : List Line :=
  (cut '\n' content.toList).flatMap literals

/-- No comment opens at the start of the text or behind a semicolon outside its string literals. -/
def CommentsAreQuoted (text : Line) : Prop :=
  opensComment text = false ∧
    ∀ place < text.length, text[place]? = some ';' → ClosesLiterals (text.take place) →
      opensComment (text.drop (place + 1)) = false

instance : DecidablePred CommentsAreQuoted := fun text =>
  inferInstanceAs (Decidable (opensComment text = false ∧
    ∀ place < text.length, text[place]? = some ';' → ClosesLiterals (text.take place) →
      opensComment (text.drop (place + 1)) = false))

/-- Minification finds nothing to act on in the literal. -/
structure IsInert (literal : Line) : Prop where
  tight : IsTight literal
  apart : literal.IsChain fun c d => ¬(c = ';' ∧ d = ';')
  commentFree : CommentFree ('"' :: literal)

instance : DecidablePred IsInert := fun literal =>
  decidable_of_iff
    (IsTight literal ∧ (literal.IsChain fun c d => ¬(c = ';' ∧ d = ';')) ∧
      CommentFree ('"' :: literal))
    ⟨fun h => ⟨h.1, h.2.1, h.2.2⟩, fun h => ⟨h.tight, h.apart, h.commentFree⟩⟩

/-! ## Inert literals -/

/-- The literal as a pass leaves it. -/
def squeezed (literal : Line) : Line :=
  collapseSemicolons (tighten literal)

theorem IsTight.collapsed (h : IsTight line)
    (hapart : line.IsChain fun c d => ¬(c = ';' ∧ d = ';')) :
    collapseSemicolons line = line := by
  induction line with
  | nil => rfl
  | cons c rest ih =>
      refine collapseSemicolons_cons_eq_self_iff.2 ⟨?_, ih h.of_cons hapart.tail⟩
      rintro rfl
      cases rest with
      | nil => rfl
      | cons d others =>
          -- What meets the semicolon is neither a blank nor another one.
          have hblank : isBlank d = false := by
            have hmeet : MayMeet ';' d := List.IsChain.rel_head? h rfl
            simpa [isOperator_semicolon] using hmeet.2
          have hd : d ≠ ';' := by
            simpa using List.IsChain.rel_head? hapart rfl
          simpa [semicolonFollows_cons_of_not_blank hblank] using hd

theorem IsInert.squeezed_eq (h : IsInert literal) : squeezed literal = literal := by
  simp only [squeezed, h.tight.tighten_eq, h.tight.collapsed h.apart]

/-- The literals of packed lines are inert. -/
theorem IsPacked.isInert (h : IsPacked line) (hliteral : literal ∈ literals line) :
    IsInert literal := by
  rcases exists_of_mem_literals hliteral with ⟨a, b, rfl, hb⟩
  have hwithin : literal <:+: a ++ '"' :: (literal ++ b) := ⟨a ++ ['"'], b, by simp⟩
  have htight : IsTight literal := List.IsChain.infix h.tight hwithin
  have hapart := List.IsChain.infix (isChain_of_collapsed h.collapsed) hwithin
  refine ⟨htight, hapart, ?_⟩
  refine commentFree_iff.2 ⟨opensComment_append_quote [] literal, ?_⟩
  intro u v huv
  -- A semicolon of the literal is one of the line, which goes on behind the literal.
  have hline : a ++ '"' :: (literal ++ b) = (a ++ u) ++ ';' :: (v ++ b) := by
    calc
      a ++ '"' :: (literal ++ b) = a ++ (('"' :: literal) ++ b) := rfl
      _ = (a ++ u) ++ ';' :: (v ++ b) := by simp [huv]
  have hopens := (commentFree_iff.1 h.commentFree).2 _ _ hline
  rcases hb with rfl | ⟨rest, rfl⟩
  · simpa using hopens
  · simpa only [opensComment_append_quote] using hopens

/-! ## Lines without comment -/

/-- Behind an open literal the last quote is not closed yet. -/
theorem exists_last_quote {text : Line} (h : ¬ClosesLiterals text) :
    ∃ a b, text = a ++ '"' :: b ∧ '"' ∉ b ∧ ClosesLiterals a := by
  rcases List.eq_append_cons_of_mem (List.mem_reverse.2 (quote_mem_of_open h)) with
    ⟨b, a, htext, hb⟩
  have htext : text = a.reverse ++ '"' :: b.reverse := by
    simpa using congrArg List.reverse htext
  refine ⟨a.reverse, b.reverse, htext, by simpa using hb, ?_⟩
  simpa [ClosesLiterals, htext, List.count_eq_zero_of_not_mem hb, Nat.even_add_one] using h

/-- No comment is cut off a line whose literals are inert. -/
theorem CommentsAreQuoted.commentFree (h : CommentsAreQuoted line) (hclosed : ClosesLiterals line)
    (hinert : ∀ literal ∈ literals line, IsInert literal) : CommentFree line := by
  refine commentFree_iff.2 ⟨h.1, ?_⟩
  rintro u v rfl
  by_cases hu : ClosesLiterals u
  · simpa using h.2 u.length (by simp) (by simp) (by simpa using hu)
  -- Otherwise the semicolon stands within a literal, which ends behind it.
  · rcases exists_last_quote hu with ⟨a, p, rfl, hp, ha⟩
    have hv : ¬ClosesLiterals v := fun hv => hu ((closesLiterals_pack_iff hv).1 hclosed)
    rcases List.eq_append_cons_of_mem (quote_mem_of_open hv) with ⟨q, b, rfl, hq⟩
    have hpq : '"' ∉ p ++ ';' :: q := by simp [hp, hq]
    have hmem : p ++ ';' :: q ∈ literals ((a ++ '"' :: p) ++ ';' :: (q ++ '"' :: b)) := by
      have hquoted : literals ('"' :: ((p ++ ';' :: q) ++ '"' :: b)) =
          (p ++ ';' :: q) :: literals b := literals_quoted List.not_mem_nil hpq
      have hassoc : (a ++ '"' :: p) ++ ';' :: (q ++ '"' :: b) =
          a ++ '"' :: ((p ++ ';' :: q) ++ '"' :: b) := by simp
      simp only [hassoc, literals_append ha, hquoted]
      simp
    have hfree := (hinert _ hmem).commentFree
    have hopens := (commentFree_iff.1 hfree).2 ('"' :: p) q rfl
    simpa only [opensComment_append_quote] using hopens

/-! ## Passes -/

/-- Minification cuts nothing off the lines, and their literals are closed. -/
structure AreQuoted (lines : List Line) : Prop where
  commentFree : ∀ line ∈ lines, CommentFree line
  closed : ∀ line ∈ lines, ClosesLiterals line

theorem literals_nil : literals [] = [] := rfl

theorem AreQuoted.closes_compactAll (h : AreQuoted lines) :
    ∀ line ∈ compactAll lines, ClosesLiterals line := by
  intro line hline
  rcases List.mem_map.1 (mem_filter_ne_nil.1 hline).1 with ⟨source, hsource, rfl⟩
  exact (h.closed source hsource).compact (h.commentFree source hsource)

theorem AreQuoted.closes_packed (h : AreQuoted lines) :
    ∀ line ∈ squash limit (merge limit (compactAll lines)), ClosesLiterals line :=
  (packs_pass limit lines).forall_mem (fun _ _ => ClosesLiterals.pack) h.closes_compactAll

theorem AreQuoted.pass (h : AreQuoted lines) : AreQuoted (pass limit lines) where
  commentFree := fun _ hline => (isPacked_of_mem_pass hline).commentFree
  closed := by
    intro line hline
    rcases List.mem_map.1 (mem_filter_ne_nil.1 hline).1 with ⟨packed, hpacked, rfl⟩
    exact (h.closes_packed packed hpacked).tidy

/-- A pass tightens and collapses each literal. -/
theorem AreQuoted.flatMap_literals_pass (h : AreQuoted lines) :
    (Program.pass limit lines).flatMap literals =
      (lines.flatMap literals).map squeezed := by
  have hcompact : (compactAll lines).flatMap literals = (lines.flatMap literals).map tighten :=
    calc
      (compactAll lines).flatMap literals = lines.flatMap fun line => literals (compact line) := by
        simp [compactAll, flatMap_filter_ne_nil literals_nil, List.flatMap_map]
      _ = lines.flatMap fun line => (literals line).map tighten :=
        List.flatMap_congr fun line hline =>
          literals_compact (h.commentFree line hline) (h.closed line hline)
      _ = (lines.flatMap literals).map tighten := by simp [List.map_flatMap]
  calc
    (Program.pass limit lines).flatMap literals
        = (squash limit (merge limit (compactAll lines))).flatMap
            fun line => literals (tidy line) := by
            simp [Program.pass, tidyAll, flatMap_filter_ne_nil literals_nil, List.flatMap_map]
    _ = (squash limit (merge limit (compactAll lines))).flatMap
            fun line => (literals line).map collapseSemicolons :=
            List.flatMap_congr fun line hline => literals_tidy (h.closes_packed line hline)
    _ = ((squash limit (merge limit (compactAll lines))).flatMap literals).map
            collapseSemicolons := by simp [List.map_flatMap]
    _ = ((compactAll lines).flatMap literals).map collapseSemicolons := by
            have hpack := (packs_pass limit lines).flatMap_eq_of_forall
              (fun _ _ => ClosesLiterals.pack)
              (fun _ next hline _ => literals_pack hline next) h.closes_compactAll
            simp only [hpack]
    _ = (lines.flatMap literals).map squeezed := by
            simp [hcompact, List.map_map, Function.comp_def, squeezed]

/-- All passes together tighten and collapse each literal once. -/
theorem AreQuoted.flatMap_literals_minifyLines (h : AreQuoted lines) :
    (minifyLines limit lines).flatMap literals =
      (lines.flatMap literals).map squeezed := by
  have hinvariant : AreQuoted (minifyLines limit lines) ∧
      (minifyLines limit lines).flatMap literals = (lines.flatMap literals).map squeezed := by
    apply minifyLines_invariant_of_isPacked
      (P := fun packed => AreQuoted packed ∧
        packed.flatMap literals = (lines.flatMap literals).map squeezed)
    · rintro packed hpacked ⟨hquoted, hliterals⟩
      refine ⟨hquoted.pass, ?_⟩
      -- The literals of packed lines are inert.
      have hself : ∀ literal ∈ packed.flatMap literals, squeezed literal = literal := by
        intro literal hmem
        rcases List.mem_flatMap.1 hmem with ⟨line, hline, hliteral⟩
        exact ((hpacked line hline).isInert hliteral).squeezed_eq
      calc
        (Program.pass limit packed).flatMap literals
            = (packed.flatMap literals).map squeezed := hquoted.flatMap_literals_pass
        _ = packed.flatMap literals := by
              simpa using List.map_congr_left hself
        _ = _ := hliterals
    · exact ⟨h.pass, h.flatMap_literals_pass⟩
  exact hinvariant.2

/-! ## Minified programs -/

theorem literalsOf_minify (limit : Nat) (content : String) :
    literalsOf (minify limit content) = (minified limit content).flatMap literals := by
  unfold literalsOf
  simp only [cut_minify]
  split
  · next h => simp [h, literals_nil]
  · rfl

/-- In a program that closes its string literals and has no comment outside them, minification
keeps the literals, line by line and in order, exactly when it finds nothing to act on in any. -/
theorem literals_minify_iff (limit : Nat) (content : String)
    (hclosed : ∀ line ∈ cut '\n' content.toList, ClosesLiterals line)
    (hquoted : ∀ line ∈ cut '\n' content.toList, CommentsAreQuoted line) :
    literalsOf (minify limit content) = literalsOf content ↔
      ∀ literal ∈ literalsOf content, IsInert literal := by
  constructor
  · intro heq literal hliteral
    simp only [← heq, literalsOf_minify, List.mem_flatMap] at hliteral
    rcases hliteral with ⟨line, hline, hliteral⟩
    exact (isPacked_of_mem_minifyLines hline).isInert hliteral
  · intro hinert
    have hlines : AreQuoted (cut '\n' content.toList) := by
      refine ⟨fun line hline => ?_, hclosed⟩
      refine (hquoted line hline).commentFree (hclosed line hline) fun literal hliteral => ?_
      exact hinert literal (List.mem_flatMap.2 ⟨line, hline, hliteral⟩)
    have hself : ∀ literal ∈ literalsOf content, squeezed literal = literal :=
      fun literal hliteral => (hinert literal hliteral).squeezed_eq
    calc
      literalsOf (minify limit content) = (minified limit content).flatMap literals :=
        literalsOf_minify limit content
      _ = (literalsOf content).map squeezed :=
        hlines.flatMap_literals_minifyLines
      _ = literalsOf content := by simpa using List.map_congr_left hself

/-- Literals that stay. -/
theorem literals_minify_inert :
    literalsOf (minify defaultLineLimit "#A ; MG \"go;on\" ;; x = 1\nsName = \"pump\" ; EN") =
      ["go;on", "pump"].map String.toList :=
  ((literals_minify_iff defaultLineLimit _ (by decide) (by decide)).2 (by decide)).trans (by decide)

/-- A message loses a blank behind its comma. -/
theorem literals_minify_comma :
    (∀ line ∈ cut '\n' "MG\"a, b\"".toList, ClosesLiterals line ∧ CommentsAreQuoted line) ∧
      literalsOf "MG\"a, b\"" = ["a, b".toList] ∧
        literalsOf (minify defaultLineLimit "MG\"a, b\"") = ["a,b".toList] := by
  decide

end Program
end MotionController
