import MotionController.Program.Commands
import MotionController.Proofs.Text.Cutting

/-!
# Packed commands

Packing loses no command and keeps each one whole, and no other way to put neighbouring commands on
lines within the limit needs fewer lines (`packCommands_fewest_lines`). The commands of a line are
told by its text (`IsGrouping.unique`). A line of several commands leaves the two bytes that the
terminal adds, and may leave no more than these (`longest_packed_line`).
-/

namespace MotionController
namespace Program

open Text

variable {limit : Nat} {command : String} {commands group more : List String}
  {groups others : List (List String)}

/-! ## Groups of commands -/

/-- The commands on one line, with semicolons between them. -/
def joined (commands : List String) : String :=
  String.ofList (join ';' (commands.map String.toList))

/-- The commands fall into groups of neighbours, none of them empty. -/
structure IsGrouping (commands : List String) (groups : List (List String)) : Prop where
  flatten : groups.flatten = commands
  nonempty : ∀ group ∈ groups, group ≠ []

/-- The commands may stand on one line: there is only one, or their line is within the limit. -/
def IsAdmissible (limit : Nat) (group : List String) : Prop :=
  group.length = 1 ∨ byteLength (joined group).toList ≤ limit

theorem toList_joined_singleton (command : String) :
    (joined [command]).toList = command.toList := by
  simp [joined, join]

theorem joined_singleton (command : String) : joined [command] = command := by
  simp [joined, join]

/-- Commands behind others come with a semicolon each. -/
theorem toList_joined_append (hgroup : group ≠ []) (more : List String) :
    (joined (group ++ more)).toList =
      (joined group).toList ++ more.flatMap fun command => ';' :: command.toList := by
  cases group with
  | nil => exact absurd rfl hgroup
  | cons first rest => simp [joined, join_cons, List.flatMap_map]

theorem toList_joined_append_of_ne_nil (hgroup : group ≠ []) (hmore : more ≠ []) :
    (joined (group ++ more)).toList = (joined group).toList ++ ';' :: (joined more).toList := by
  cases more with
  | nil => exact absurd rfl hmore
  | cons command more =>
      simp only [toList_joined_append hgroup]
      simp [joined, join_cons, List.flatMap_map]

theorem toList_joined_append_singleton (hgroup : group ≠ []) (command : String) :
    (joined (group ++ [command])).toList = (joined group).toList ++ ';' :: command.toList := by
  simp [toList_joined_append hgroup]

theorem byteLength_joined_append_singleton (hgroup : group ≠ []) (command : String) :
    byteLength (joined (group ++ [command])).toList =
      byteLength (joined group).toList + byteLength command.toList + 1 := by
  have hsemicolon : Char.utf8Size ';' = 1 := by decide
  simp only [toList_joined_append_singleton hgroup, byteLength_append, byteLength_cons, hsemicolon]
  omega

theorem byteLength_joined_le_append (hgroup : group ≠ []) (more : List String) :
    byteLength (joined group).toList ≤ byteLength (joined (group ++ more)).toList := by
  simp [toList_joined_append hgroup]

theorem isGrouping_singleton (hgroup : group ≠ []) : IsGrouping group [group] where
  flatten := by simp
  nonempty := by simpa using hgroup

theorem IsGrouping.cons (hgroup : group ≠ []) (h : IsGrouping commands groups) :
    IsGrouping (group ++ commands) (group :: groups) where
  flatten := by simp [h.flatten]
  nonempty := List.forall_mem_cons.2 ⟨hgroup, h.nonempty⟩

theorem IsGrouping.of_cons (h : IsGrouping commands (group :: groups)) :
    group ≠ [] ∧ IsGrouping groups.flatten groups :=
  ⟨h.nonempty group List.mem_cons_self,
    rfl, fun other hother => h.nonempty other (List.mem_cons_of_mem group hother)⟩

/-- Of the groups that a list of commands begins with, each has a line of its own length. -/
theorem eq_of_joined_eq {first second : List String} (hfirst : first ≠ [])
    (hstart : first <+: second) (hlines : joined first = joined second) : first = second := by
  rcases hstart with ⟨more, rfl⟩
  have htexts := congrArg String.toList hlines
  simp only [toList_joined_append hfirst] at htexts
  have hnone : (more.flatMap fun command => ';' :: command.toList) = [] :=
    List.self_eq_append_right.1 htexts
  cases more with
  | nil => simp
  | cons command more => simp at hnone

/-- The lines of commands tell which commands stand on which line. -/
theorem IsGrouping.unique (h : IsGrouping commands groups) (hothers : IsGrouping commands others)
    (hlines : groups.map joined = others.map joined) : groups = others := by
  induction groups generalizing commands others with
  | nil =>
      cases others with
      | nil => rfl
      | cons other others => cases hlines
  | cons group groups ih =>
      cases others with
      | nil => cases hlines
      | cons other others =>
          simp only [List.map_cons, List.cons.injEq] at hlines
          have hflatten := h.flatten.trans hothers.flatten.symm
          simp only [List.flatten_cons] at hflatten
          have hstart : group <+: other ∨ other <+: group :=
            List.prefix_or_prefix_of_prefix ⟨_, hflatten⟩ ⟨_, rfl⟩
          have hsame : group = other := by
            rcases hstart with hstart | hstart
            · exact eq_of_joined_eq h.of_cons.1 hstart hlines.1
            · exact (eq_of_joined_eq hothers.of_cons.1 hstart hlines.1.symm).symm
          subst hsame
          have hrest : groups.flatten = others.flatten := List.append_cancel_left hflatten
          have hgroups := h.of_cons.2
          simp only [hrest] at hgroups
          simp only [ih hgroups hothers.of_cons.2 hlines.2]

/-! ## The lines of packed commands -/

/-- Packing puts the commands on lines in groups, each of which may stand on one line. -/
theorem exists_grouping_packBehind (limit : Nat) (commands : List String) (hgroup : group ≠ [])
    (hadmissible : IsAdmissible limit group) :
    ∃ groups, IsGrouping (group ++ commands) groups ∧
      (packBehind limit (joined group).toList (commands.map String.toList)).map String.ofList =
        groups.map joined ∧
      ∀ group ∈ groups, IsAdmissible limit group := by
  induction commands generalizing group with
  | nil =>
      have hlines : (packBehind limit (joined group).toList []).map String.ofList =
          [group].map joined := by
        simp [packBehind]
      refine ⟨[group], ?_, hlines, ?_⟩
      · simpa using isGrouping_singleton hgroup
      · simpa using hadmissible
  | cons command commands ih =>
      by_cases hfits :
          byteLength (joined group).toList + byteLength command.toList < limit
      · -- The command goes behind the group, whose line stays within the limit.
        have hlonger : IsAdmissible limit (group ++ [command]) := by
          right
          simp only [byteLength_joined_append_singleton hgroup]
          omega
        have hrest := ih (List.append_ne_nil_of_left_ne_nil hgroup [command]) hlonger
        simpa [packBehind, hfits, toList_joined_append_singleton hgroup] using hrest
      · -- The line of the group is complete, and the command begins the next one.
        rcases ih (List.cons_ne_nil command []) (.inl rfl) with ⟨groups, hgroups, hlines, hall⟩
        refine ⟨group :: groups, ?_, ?_, ?_⟩
        · simpa using hgroups.cons hgroup
        · simpa [packBehind, hfits, toList_joined_singleton] using hlines
        · exact List.forall_mem_cons.2 ⟨hadmissible, hall⟩

theorem exists_grouping_packCommands (commands : List String) (maxLength : Nat) :
    ∃ groups, IsGrouping commands groups ∧
      packCommands commands maxLength = groups.map joined ∧
      ∀ group ∈ groups, IsAdmissible (maxLength - 2) group := by
  cases commands with
  | nil =>
      have hnone : IsGrouping [] [] := ⟨rfl, by simp⟩
      exact ⟨[], hnone, rfl, by simp⟩
  | cons first rest =>
      have hpacked :=
        exists_grouping_packBehind (maxLength - 2) rest (List.cons_ne_nil first []) (.inl rfl)
      simpa [packCommands, toList_joined_singleton] using hpacked

/-- Joining the lines of groups is joining all their commands. -/
theorem joined_map_joined (h : IsGrouping commands groups) :
    joined (groups.map joined) = joined commands := by
  induction groups generalizing commands with
  | nil => simp [← h.flatten]
  | cons group groups ih =>
      rcases h.of_cons with ⟨hgroup, hgroups⟩
      have hflatten : commands = group ++ groups.flatten := h.flatten.symm
      cases groups with
      | nil => simp [hflatten, joined_singleton]
      | cons next groups =>
          have hnext : (next :: groups).flatten ≠ [] := by
            simp [hgroups.of_cons.1]
          have hmap : (next :: groups).map joined ≠ [] := by simp
          have hlines : joined ((group :: next :: groups).map joined) =
              joined ([joined group] ++ (next :: groups).map joined) := rfl
          apply String.toList_injective
          simp only [hlines, hflatten, toList_joined_append_of_ne_nil hgroup hnext,
            toList_joined_append_of_ne_nil (List.cons_ne_nil _ _) hmap, ih hgroups,
            joined_singleton]

/-! ## How many lines there are -/

/-- Behind a shorter line there are not more lines, and behind any line at most one more. -/
theorem length_packBehind_le (limit : Nat) (commands : List (List Char)) (a b : List Char) :
    (packBehind limit b commands).length ≤ (packBehind limit a commands).length + 1 ∧
      (byteLength a ≤ byteLength b →
        (packBehind limit a commands).length ≤ (packBehind limit b commands).length) := by
  induction commands generalizing a b with
  | nil => simp [packBehind]
  | cons command commands ih =>
      -- A command behind a line makes it longer than the command alone.
      have hlonger : ∀ line : List Char,
          byteLength command ≤ byteLength (line ++ ';' :: command) := by
        intro line
        simp only [byteLength_append, byteLength_cons]
        omega
      have hnew := fun line => (ih command (line ++ ';' :: command)).1
      have hnext := fun line => (ih command (line ++ ';' :: command)).2 (hlonger line)
      have hboth := ih (a ++ ';' :: command) (b ++ ';' :: command)
      simp only [byteLength_append, byteLength_cons] at hboth
      by_cases ha : byteLength a + byteLength command < limit
      · by_cases hb : byteLength b + byteLength command < limit
        · simp only [packBehind, ha, hb, if_true]
          exact ⟨hboth.1, fun hle => hboth.2 (by omega)⟩
        · simp only [packBehind, ha, hb, if_true, if_false, List.length_cons]
          exact ⟨Nat.succ_le_succ (hnext a), fun _ => hnew a⟩
      · by_cases hb : byteLength b + byteLength command < limit
        · simp only [packBehind, ha, hb, if_true, if_false, List.length_cons]
          exact ⟨Nat.le_succ_of_le (hnew b), fun hle => absurd (by omega) ha⟩
        · simp only [packBehind, ha, hb, if_false, List.length_cons]
          exact ⟨Nat.le_succ _, fun _ => Nat.le_refl _⟩

/-- A new line for the next command saves at most none of the lines behind it. -/
theorem length_packBehind_cons_le (limit : Nat) (line command : List Char)
    (commands : List (List Char)) :
    (packBehind limit line (command :: commands)).length ≤
      (packBehind limit command commands).length + 1 := by
  simp only [packBehind]
  split
  · exact (length_packBehind_le limit commands command (line ++ ';' :: command)).1
  · exact Nat.le_refl _

/-- A group that may stand on one line is packed on one line. -/
theorem packBehind_append (hgroup : group ≠ [])
    (hmore : more = [] ∨ byteLength (joined (group ++ more)).toList ≤ limit)
    (rest : List (List Char)) :
    packBehind limit (joined group).toList (more.map String.toList ++ rest) =
      packBehind limit (joined (group ++ more)).toList rest := by
  induction more generalizing group with
  | nil => simp
  | cons command more ih =>
      have hlonger : group ++ [command] ≠ [] := List.append_ne_nil_of_left_ne_nil hgroup [command]
      have hlimit : byteLength (joined ((group ++ [command]) ++ more)).toList ≤ limit := by
        simpa using hmore
      have hline := byteLength_joined_le_append hlonger more
      have hfits : byteLength (joined group).toList + byteLength command.toList < limit := by
        simp only [byteLength_joined_append_singleton hgroup] at hline
        omega
      have hrest := ih hlonger (.inr hlimit)
      simp only [toList_joined_append_singleton hgroup] at hrest
      simpa [packBehind, hfits] using hrest

/-- No grouping for lines within the limit has fewer lines. -/
theorem length_packBehind_le_of_isGrouping (h : IsGrouping (command :: commands) groups)
    (hadmissible : ∀ group ∈ groups, IsAdmissible limit group) :
    (packBehind limit command.toList (commands.map String.toList)).length ≤ groups.length := by
  induction groups generalizing command commands with
  | nil => cases h.flatten
  | cons group groups ih =>
      rcases h.of_cons with ⟨hgroup, hgroups⟩
      rcases List.forall_mem_cons.1 hadmissible with ⟨hfirst, hothers⟩
      cases group with
      | nil => exact absurd rfl hgroup
      | cons first more =>
          have hflatten := h.flatten
          simp only [List.flatten_cons, List.cons_append, List.cons.injEq] at hflatten
          rcases hflatten with ⟨rfl, rfl⟩
          have hmore : more = [] ∨ byteLength (joined ([first] ++ more)).toList ≤ limit := by
            rcases hfirst with hone | hlimit
            · left
              simpa using hone
            · exact .inr hlimit
          have hline := packBehind_append (List.cons_ne_nil first []) hmore
            (groups.flatten.map String.toList)
          simp only [toList_joined_singleton] at hline
          simp only [List.map_append, hline, List.length_cons]
          -- Behind the first group packing goes on as if the next command began a line.
          cases hrest : groups.flatten with
          | nil => simp [packBehind]
          | cons next commands =>
              simp only [hrest] at hgroups
              have hnext := ih hgroups hothers
              have hstep := length_packBehind_cons_le limit (joined ([first] ++ more)).toList
                next.toList (commands.map String.toList)
              simp only [List.map_cons]
              omega

/-- Packing keeps every command whole and in order, on lines that are within the limit or hold one
command only, and no other way to do so needs fewer lines. -/
theorem packCommands_fewest_lines (commands : List String) (maxLength : Nat) :
    joined (packCommands commands maxLength) = joined commands ∧
      ∃ groups, IsGrouping commands groups ∧
        packCommands commands maxLength = groups.map joined ∧
        (∀ group ∈ groups, IsAdmissible (maxLength - 2) group) ∧
        ∀ others, IsGrouping commands others →
          (∀ group ∈ others, IsAdmissible (maxLength - 2) group) →
            groups.length ≤ others.length := by
  rcases exists_grouping_packCommands commands maxLength with
    ⟨groups, hgroups, hlines, hadmissible⟩
  constructor
  · simp only [hlines, joined_map_joined hgroups]
  · refine ⟨groups, hgroups, hlines, hadmissible, ?_⟩
    intro others hothers hall
    have hlength : groups.length = (packCommands commands maxLength).length := by
      simp [hlines]
    cases commands with
    | nil =>
        simp only [hlength]
        exact Nat.zero_le _
    | cons first rest =>
        have hfewest := length_packBehind_le_of_isGrouping hothers hall
        simpa [hlength, packCommands] using hfewest

/-- The third command would make the first line longer than ten bytes. -/
example : packCommands ["a=1", "b=2", "c=3", "d=4"] 12 = ["a=1;b=2", "c=3;d=4"] := by
  decide

/-! ## The longest line of several commands -/

/-- A line of several commands is at least two bytes shorter than the greatest length. It is no
shorter than that if it holds two commands that together are three bytes shorter. -/
theorem longest_packed_line (maxLength : Nat) :
    (∀ commands groups, IsGrouping commands groups →
      packCommands commands maxLength = groups.map joined →
        ∀ group ∈ groups, 2 ≤ group.length →
          byteLength (joined group).toList ≤ maxLength - 2) ∧
      ∀ first second : String,
        byteLength first.toList + byteLength second.toList + 3 = maxLength →
          packCommands [first, second] maxLength = [joined [first, second]] ∧
            byteLength (joined [first, second]).toList = maxLength - 2 := by
  constructor
  · intro commands groups hgroups hlines group hmem hseveral
    rcases exists_grouping_packCommands commands maxLength with
      ⟨packed, hpacked, hpackedLines, hadmissible⟩
    have hsame := hgroups.unique hpacked (hlines.symm.trans hpackedLines)
    subst hsame
    rcases hadmissible group hmem with hone | hlimit
    · omega
    · exact hlimit
  · intro first second hbytes
    have hfits : byteLength first.toList + byteLength second.toList < maxLength - 2 := by
      omega
    have hline := byteLength_joined_append_singleton (List.cons_ne_nil first []) second
    simp only [joined_singleton, List.singleton_append] at hline
    refine ⟨?_, ?_⟩
    · simp [packCommands, packBehind, hfits, joined, join]
    · omega

/-- A line of two commands may be as long as the greatest length less two, not only shorter. -/
theorem packed_line_reaches_limit :
    ¬∀ commands maxLength groups, IsGrouping commands groups →
      packCommands commands maxLength = groups.map joined →
        ∀ group ∈ groups, 2 ≤ group.length →
          byteLength (joined group).toList < maxLength - 2 := by
  intro hshorter
  have hne : ["a=1", "b=2"] ≠ [] := by simp
  have hline := hshorter ["a=1", "b=2"] 9 [["a=1", "b=2"]] (isGrouping_singleton hne) (by decide)
    ["a=1", "b=2"] List.mem_cons_self (by decide)
  exact absurd hline (by decide)

end Program
end MotionController
