import Mathlib.Logic.Relation
import MotionController.Program.Minify

/-!
# Packing steps

Merging and squashing pack two neighbouring lines at a time (`packs_merge`, `packs_squash`), each
for one of three reasons (`MayPack`). What every step keeps is kept by a whole pass, and a pass that
packs anything leaves fewer lines (`Packs.eq_or_length_lt`).
-/

namespace MotionController
namespace Program

variable {limit : Nat} {line next after : Line} {lines packed others : List Line}

/-- Why two neighbouring lines may be packed together. -/
inductive MayPack (limit : Nat) : Line → Line → Prop where
  | joinable {line next : Line} (hnext : isJoinable next = true)
      (hfits : fits limit line next = true) : MayPack limit line next
  | behindLabel {line next : Line} (h : takesNext limit line next = true) : MayPack limit line next
  | routineEnd {line next : Line} (h : takesNext limit line next = true)
      (hfits : fits limit (line ++ ';' :: next) endCommand = true) :
      MayPack limit (line ++ ';' :: next) endCommand

/-- Two neighbouring lines are packed together. -/
inductive PackStep (limit : Nat) : List Line → List Line → Prop where
  | pack (before : List Line) (line next : Line) (after : List Line)
      (h : MayPack limit line next) :
      PackStep limit (before ++ line :: next :: after) (before ++ (line ++ ';' :: next) :: after)

/-- Neighbouring lines are packed together any number of times. -/
abbrev Packs (limit : Nat) : List Line → List Line → Prop :=
  Relation.ReflTransGen (PackStep limit)

/-! ## Building runs of steps -/

theorem Packs.head {line next : Line} {after : List Line} (h : MayPack limit line next)
    (hpacks : Packs limit ((line ++ ';' :: next) :: after) packed) :
    Packs limit (line :: next :: after) packed :=
  Relation.ReflTransGen.head (.pack [] line next after h) hpacks

theorem Packs.cons (line : Line) (h : Packs limit lines packed) :
    Packs limit (line :: lines) (line :: packed) := by
  induction h with
  | refl => exact .refl
  | tail _ hstep ih =>
      cases hstep with
      | pack before l next after hpack => exact ih.tail (.pack (line :: before) l next after hpack)

theorem packs_mergeBehind (limit : Nat) (line : Line) (lines : List Line) :
    Packs limit (line :: lines) (mergeBehind limit line lines) := by
  induction lines generalizing line with
  | nil => exact .refl
  | cons next rest ih =>
      unfold mergeBehind
      split
      · next h =>
          simp only [Bool.and_eq_true] at h
          exact .head (.joinable h.1 h.2) (ih _)
      · exact (ih next).cons line

theorem packs_merge (limit : Nat) (lines : List Line) : Packs limit lines (merge limit lines) := by
  cases lines with
  | nil => exact .refl
  | cons line rest => exact packs_mergeBehind limit line rest

theorem squash_routineEnd (h : takesNext limit line next = true)
    (hend : (after == endCommand && fits limit (line ++ ';' :: next) after) = true) :
    squash limit (line :: next :: after :: others) =
      ((line ++ ';' :: next) ++ ';' :: after) :: squash limit others := by
  simp only [squash, h, if_true, if_pos hend]

theorem squash_behindLabel (h : takesNext limit line next = true)
    (hend : ¬(after == endCommand && fits limit (line ++ ';' :: next) after) = true) :
    squash limit (line :: next :: after :: others) =
      (line ++ ';' :: next) :: squash limit (after :: others) := by
  simp only [squash, h, if_true, if_neg hend]

theorem packs_squash (limit : Nat) (lines : List Line) :
    Packs limit lines (squash limit lines) := by
  -- One case for each way that squashing goes on; a packed `EN` takes two steps.
  induction lines using squash.induct limit with
  | case1 => exact .refl
  | case2 line => exact .refl
  | case3 line next h =>
      have hpack : Packs limit [line, next] [line ++ ';' :: next] := .head (.behindLabel h) .refl
      simpa [squash, h] using hpack
  | case4 line next h packed after others hend ih =>
      simp only [squash_routineEnd h hend]
      simp only [Bool.and_eq_true, beq_iff_eq] at hend
      rcases hend with ⟨rfl, hfits⟩
      exact .head (.behindLabel h) (.head (.routineEnd h hfits) (ih.cons _))
  | case5 line next h packed after others hend ih =>
      simp only [squash_behindLabel h hend]
      exact .head (.behindLabel h) (ih.cons packed)
  | case6 line next rest h ih =>
      simpa [squash, h] using ih.cons line

/-! ## What runs of steps keep -/

theorem Packs.forall_mem {P : Line → Prop} (h : Packs limit lines packed)
    (hpack : ∀ line next, P line → P next → P (line ++ ';' :: next))
    (hlines : ∀ line ∈ lines, P line) : ∀ line ∈ packed, P line := by
  -- What the packed line is made of was in the list before the step.
  induction h with
  | refl => exact hlines
  | tail _ hstep ih =>
      cases hstep with
      | pack before line next after _ =>
          intro l hl
          simp only [List.mem_append, List.mem_cons] at hl ih
          rcases hl with hl | rfl | hl
          · exact ih l (.inl hl)
          · exact hpack line next (ih line (by simp)) (ih next (by simp))
          · exact ih l (by simp [hl])

/-- What is read off lines and adds up where two may be packed stays the same. -/
theorem Packs.flatMap_eq_of_mayPack {α : Type} {view : Line → List α}
    (h : Packs limit lines packed)
    (hview : ∀ line next, MayPack limit line next →
      view (line ++ ';' :: next) = view line ++ view next) :
    packed.flatMap view = lines.flatMap view := by
  induction h with
  | refl => rfl
  | tail _ hstep ih =>
      cases hstep with
      | pack before line next after hpack =>
          simp only [← ih]
          simp [hview line next hpack]

/-- What is read off lines and adds up for those with a property that packing keeps stays the
same. -/
theorem Packs.flatMap_eq_of_forall {α : Type} {view : Line → List α} {P : Line → Prop}
    (h : Packs limit lines packed) (hpack : ∀ line next, P line → P next → P (line ++ ';' :: next))
    (hview : ∀ line next, P line → P next → view (line ++ ';' :: next) = view line ++ view next)
    (hlines : ∀ line ∈ lines, P line) : packed.flatMap view = lines.flatMap view := by
  induction h with
  | refl => rfl
  | tail hpacks hstep ih =>
      have hall := Packs.forall_mem hpacks hpack hlines
      cases hstep with
      | pack before line next after _ =>
          have hadds := hview line next (hall line (by simp)) (hall next (by simp))
          simp only [← ih]
          simp [hadds]

/-- What is read off lines and adds up over a semicolon stays the same. -/
theorem Packs.flatMap_eq {α : Type} {view : Line → List α} (h : Packs limit lines packed)
    (hview : ∀ line next, view (line ++ ';' :: next) = view line ++ view next) :
    packed.flatMap view = lines.flatMap view :=
  h.flatMap_eq_of_mayPack fun line next _ => hview line next

theorem Packs.length_le (h : Packs limit lines packed) : packed.length ≤ lines.length := by
  induction h with
  | refl => exact Nat.le_refl _
  | tail _ hstep ih =>
      cases hstep with
      | pack before line next after _ =>
          simp only [List.length_append, List.length_cons] at ih ⊢
          omega

/-- A run of steps either packs nothing or leaves fewer lines. -/
theorem Packs.eq_or_length_lt (h : Packs limit lines packed) :
    packed = lines ∨ packed.length < lines.length := by
  rcases Relation.ReflTransGen.cases_head h with rfl | ⟨mid, hstep, hrest⟩
  · exact .inl rfl
  · right
    have hle := Packs.length_le hrest
    cases hstep with
    | pack before line next after _ =>
        simp only [List.length_append, List.length_cons] at hle ⊢
        omega

end Program
end MotionController
