import MotionController.Proofs.Program.Calls

/-!
# The calls of joined lines

With a semicolon between them, two texts have the calls of the first and then those of the second,
unless the first one leaves the arguments of a call open and the second one has a parenthesis to
close them (`findCalls_append_iff`). Then the call takes the text in between for arguments, and the
calls in it are lost (`exists_taker`).
-/

namespace MotionController
namespace Program

variable {text inner after a b command : List Char} {call : Call} {found : List Call} {bound : Nat}

/-! ## What there is to say of calls -/

/-- What counts of the calls of a text: their labels and arguments. -/
def calledWith (text : List Char) : List (Label × List Char) :=
  (findCalls text).map fun call => (call.label, call.arguments)

/-- A command of the text begins a call whose arguments do not end in the text. -/
def LeavesOpen (text : List Char) : Prop :=
  ∃ command, (command = text ∨ ';' :: command <:+ text) ∧ IsOpenCall command

/-! ## From one command to the next -/

@[simp] theorem behindSemicolon?_nil : behindSemicolon? [] = none := rfl

@[simp] theorem behindSemicolon?_cons_self (text : List Char) :
    behindSemicolon? (';' :: text) = some text := by
  simp [behindSemicolon?]

theorem behindSemicolon?_cons_of_ne {c : Char} (hc : c ≠ ';') (text : List Char) :
    behindSemicolon? (c :: text) = behindSemicolon? text := by
  simp [behindSemicolon?, hc]

theorem behindSemicolon?_append (a b : List Char) :
    behindSemicolon? (a ++ ';' :: b) =
      some (match behindSemicolon? a with
        | some rest => rest ++ ';' :: b
        | none => b) := by
  induction a with
  | nil => simp
  | cons c a ih =>
      by_cases hc : c = ';'
      · subst hc
        simp
      · simpa [behindSemicolon?_cons_of_ne hc] using ih

/-- What begins with a character that is not in `a` begins behind `a`. -/
theorem suffix_of_append_of_not_mem {c : Char} (hc : c ∉ a) (h : c :: b <:+ a ++ text) :
    c :: b <:+ text := by
  induction a with
  | nil => exact h
  | cons d a ih =>
      simp only [List.mem_cons, not_or] at hc
      rcases List.suffix_cons_iff.1 h with heq | hsuffix
      · exact absurd (List.cons.inj heq).1 hc.1
      · exact ih hc.2 hsuffix

/-- A command behind a semicolon is the next one, or comes behind a semicolon of the rest. -/
theorem exists_behindSemicolon? (h : ';' :: command <:+ text) :
    ∃ rest, behindSemicolon? text = some rest ∧ (command = rest ∨ ';' :: command <:+ rest) := by
  induction text with
  | nil => simp at h
  | cons c text ih =>
      by_cases hc : c = ';'
      · subst hc
        rcases List.suffix_cons_iff.1 h with heq | hsuffix
        · exact ⟨text, by simp, .inl (List.cons.inj heq).2⟩
        · exact ⟨text, by simp, .inr hsuffix⟩
      · simp only [behindSemicolon?_cons_of_ne hc]
        rcases List.suffix_cons_iff.1 h with heq | hsuffix
        · exact absurd (List.cons.inj heq).1.symm hc
        · exact ih hsuffix

/-! ## From call to call -/

/-- The call that the text begins with, if it does. -/
def firstCall (text : List Char) : List Call :=
  ((splitCall? text).map (·.1)).toList

/-- The calls behind the first semicolon of a text. -/
def laterCalls (text : List Char) : List Call :=
  (behindSemicolon? text).elim [] findCalls

theorem findCalls_eq (text : List Char) :
    findCalls text = firstCall text ++ (nextBoundary? text).elim [] findCalls := by
  conv_lhs => unfold findCalls
  split
  · next rest hrest => simp [firstCall, hrest]
  · next hrest => simp [firstCall, hrest]

theorem findCalls_of_some (h : splitCall? text = some (call, after)) :
    findCalls text = call :: laterCalls after := by
  simp [findCalls_eq text, firstCall, nextBoundary?, laterCalls, h]

theorem findCalls_of_none (h : splitCall? text = none) : findCalls text = laterCalls text := by
  simp [findCalls_eq text, firstCall, nextBoundary?, laterCalls, h]

/-! ## Texts that keep their calls -/

theorem IsOpenCall.leavesOpen (h : IsOpenCall text) : LeavesOpen text :=
  ⟨text, .inl rfl, h⟩

theorem LeavesOpen.of_suffix (h : LeavesOpen after) (hsuffix : ';' :: after <:+ text) :
    LeavesOpen text := by
  rcases h with ⟨command, rfl | hcommand, hopen⟩
  · exact ⟨command, .inr hsuffix, hopen⟩
  · exact ⟨command, .inr ((hcommand.trans (List.suffix_cons ';' after)).trans hsuffix), hopen⟩

theorem firstCall_append (h : ¬(IsOpenCall a ∧ MayEndIn b)) :
    firstCall (a ++ ';' :: b) = firstCall a := by
  simp [firstCall, splitCall?_append_semicolon h, Function.comp_def]

theorem nextBoundary?_append (h : ¬(IsOpenCall a ∧ MayEndIn b)) :
    nextBoundary? (a ++ ';' :: b) =
      some (match nextBoundary? a with
        | some rest => rest ++ ';' :: b
        | none => b) := by
  cases hcall : splitCall? a with
  | none => simp [nextBoundary?, splitCall?_append_semicolon h, hcall, behindSemicolon?_append]
  | some read => simp [nextBoundary?, splitCall?_append_semicolon h, hcall, behindSemicolon?_append]

/-- Behind a semicolon, a text adds its calls to those before it, unless it closes an open one. -/
theorem findCalls_append (h : ¬(LeavesOpen a ∧ MayEndIn b)) :
    findCalls (a ++ ';' :: b) = findCalls a ++ findCalls b := by
  induction a using findCalls.induct with
  | case1 a ih =>
      -- Both scans read the same first command and go on behind the same semicolon of `a`.
      have hhere : ¬(IsOpenCall a ∧ MayEndIn b) := fun hboth => h ⟨hboth.1.leavesOpen, hboth.2⟩
      simp only [findCalls_eq (a ++ ';' :: b), findCalls_eq a, firstCall_append hhere,
        nextBoundary?_append hhere, List.append_assoc]
      cases hnext : nextBoundary? a with
      | none => simp
      | some rest =>
          have hrest : ¬(LeavesOpen rest ∧ MayEndIn b) := fun hboth =>
            h ⟨hboth.1.of_suffix (suffix_of_nextBoundary? hnext), hboth.2⟩
          simp [ih rest hnext hrest]

/-! ## Where an open call is found -/

/-- No arguments go beyond the start of an open call. -/
theorem IsOpenCall.suffix_of_splitArguments? (hopen : IsOpenCall command)
    (hcommand : ';' :: command <:+ text) (h : splitArguments? text = some (inner, after)) :
    ';' :: command <:+ after := by
  induction text generalizing inner with
  | nil => simp [splitArguments?] at h
  | cons c text ih =>
      rcases List.suffix_cons_iff.1 hcommand with heq | hsuffix
      · have hc : ';' ≠ ')' := by decide
        have hnone : splitArguments? command = none :=
          splitArguments?_eq_none_iff.2 hopen.not_mayEndIn
        simp [← heq, splitArguments?_cons_of_ne hc, hnone] at h
      · rcases splitArguments?_cons_cases h with ⟨-, -, rfl⟩ | ⟨inner', hinner, -⟩
        · exact hsuffix
        · exact ih hsuffix hinner

/-- The call that a text begins with ends before any open one. -/
theorem IsOpenCall.suffix_of_splitCall? (hopen : IsOpenCall command)
    (hcommand : ';' :: command <:+ text) (h : splitCall? text = some (call, after)) :
    ';' :: command <:+ after := by
  rcases exists_tail_of_splitCall? h with ⟨head, tail, rfl, hsemicolon, -, hends⟩
  have htail : ';' :: command <:+ tail := suffix_of_append_of_not_mem hsemicolon hcommand
  rcases hends with ⟨-, rfl⟩ | harguments
  · exact htail
  · exact hopen.suffix_of_splitArguments? htail harguments

/-- The scan comes to an open call: it begins the text, or is in what the scan goes on with. -/
theorem LeavesOpen.here_or_next (h : LeavesOpen text) :
    IsOpenCall text ∨ ∃ rest, nextBoundary? text = some rest ∧ LeavesOpen rest := by
  rcases h with ⟨command, rfl | hcommand, hopen⟩
  · exact .inl hopen
  · have hscanned : ∃ scanned, nextBoundary? text = behindSemicolon? scanned ∧
        ';' :: command <:+ scanned := by
      cases hcall : splitCall? text with
      | none => exact ⟨text, by simp [nextBoundary?, hcall], hcommand⟩
      | some read =>
          exact ⟨read.2, by simp [nextBoundary?, hcall],
            hopen.suffix_of_splitCall? hcommand hcall⟩
    rcases hscanned with ⟨scanned, hnext, hsuffix⟩
    rcases exists_behindSemicolon? hsuffix with ⟨rest, hrest, hin⟩
    exact .inr ⟨rest, hnext.trans hrest, command, hin, hopen⟩

/-! ## Texts that lose their calls -/

/-- Where no arguments may end, calls have none. -/
theorem arguments_eq_nil_of_mem_findCalls (h : ¬MayEndIn text) :
    ∀ call ∈ findCalls text, call.arguments = [] := by
  induction text using findCalls.induct with
  | case1 text ih =>
      intro call hmem
      simp only [findCalls_eq text, List.mem_append] at hmem
      rcases hmem with hfirst | hlater
      · simp only [firstCall, Option.mem_toList, Option.map_eq_some_iff] at hfirst
        rcases hfirst with ⟨⟨_, after⟩, hcall, rfl⟩
        rcases exists_tail_of_splitCall? hcall with ⟨head, tail, rfl, -, -, ⟨hnil, -⟩ | hends⟩
        · exact hnil
        · have htail : MayEndIn tail := by
            by_contra hnot
            simp [splitArguments?_eq_none_iff.2 hnot] at hends
          exact absurd (htail.of_suffix (List.suffix_append head tail)) h
      · cases hnext : nextBoundary? text with
        | none => simp [hnext] at hlater
        | some rest =>
            have hsuffix : rest <:+ text :=
              (List.suffix_cons ';' rest).trans (suffix_of_nextBoundary? hnext)
            simp only [hnext, Option.elim_some] at hlater
            exact ih rest hnext (fun hends => h (hends.of_suffix hsuffix)) call hlater

/-- The calls found are those behind `after`, and before them some with arguments of at most the
given length. -/
def ComesTo (found : List Call) (after : List Char) (bound : Nat) : Prop :=
  ∃ calls, found = calls ++ laterCalls after ∧ ∀ call ∈ calls, call.arguments.length ≤ bound

theorem comesTo_laterCalls (after : List Char) (bound : Nat) :
    ComesTo (laterCalls after) after bound :=
  ⟨[], rfl, by simp⟩

theorem ComesTo.cons (hcall : call.arguments.length ≤ bound) (h : ComesTo found after bound) :
    ComesTo (call :: found) after bound := by
  rcases h with ⟨calls, rfl, hshort⟩
  exact ⟨call :: calls, rfl, List.forall_mem_cons.2 ⟨hcall, hshort⟩⟩

theorem ComesTo.mono {larger : Nat} (hle : bound ≤ larger) (h : ComesTo found after bound) :
    ComesTo found after larger := by
  rcases h with ⟨calls, rfl, hshort⟩
  exact ⟨calls, rfl, fun call hmem => (hshort call hmem).trans hle⟩

/-- Among arguments the next semicolon leaves the end of them behind it, or comes after it. -/
theorem comesTo_laterCalls_of_splitArguments? (h : splitArguments? text = some (inner, after))
    (hnext : ∀ rest inner', behindSemicolon? text = some rest →
      splitArguments? rest = some (inner', after) →
        ComesTo (findCalls rest) after inner'.length) :
    ComesTo (laterCalls text) after inner.length := by
  induction text generalizing inner with
  | nil => simp [splitArguments?] at h
  | cons c text ih =>
      rcases splitArguments?_cons_cases h with ⟨rfl, -, rfl⟩ | ⟨inner', hinner, rfl⟩
      · have hc : ')' ≠ ';' := by decide
        simpa only [laterCalls, behindSemicolon?_cons_of_ne hc] using comesTo_laterCalls after _
      · have hlonger : inner'.length ≤ (c :: inner').length := by simp
        by_cases hc : c = ';'
        · subst hc
          have hrest := hnext text inner' (behindSemicolon?_cons_self text) hinner
          simpa only [laterCalls, behindSemicolon?_cons_self, Option.elim_some] using
            hrest.mono hlonger
        · simp only [behindSemicolon?_cons_of_ne hc] at hnext
          simpa only [laterCalls, behindSemicolon?_cons_of_ne hc] using
            (ih hinner hnext).mono hlonger

/-- A scan that starts among arguments comes to what is behind them. The calls it finds before have
no longer arguments. -/
theorem comesTo_findCalls (h : splitArguments? text = some (inner, after)) :
    ComesTo (findCalls text) after inner.length := by
  induction text using findCalls.induct generalizing inner with
  | case1 text ih =>
      cases hcall : splitCall? text with
      | none =>
          have hnext : nextBoundary? text = behindSemicolon? text := by simp [nextBoundary?, hcall]
          simp only [findCalls_of_none hcall]
          exact comesTo_laterCalls_of_splitArguments? h fun rest inner' hrest =>
            ih rest (hnext.trans hrest)
      | some read =>
          rcases read with ⟨call, after'⟩
          have hnext : nextBoundary? text = behindSemicolon? after' := by
            simp [nextBoundary?, hcall]
          simp only [findCalls_of_some hcall]
          rcases exists_tail_of_splitCall? hcall with ⟨head, tail, rfl, -, hclose, hends⟩
          -- No list of arguments ends in a head: they are the head and the arguments of the tail.
          simp only [splitArguments?_append_of_not_mem hclose, Option.map_eq_some_iff,
            Prod.mk.injEq] at h
          rcases h with ⟨⟨inner', after''⟩, htail, rfl, rfl⟩
          have hlonger : inner'.length ≤ (head ++ inner').length := by simp
          rcases hends with ⟨hnil, rfl⟩ | harguments
          · have hlater := comesTo_laterCalls_of_splitArguments? htail fun rest inner' hrest =>
              ih rest (hnext.trans hrest)
            exact (hlater.cons (by simp [hnil])).mono hlonger
          · -- The call itself ends where the arguments do.
            simp only [harguments, Option.some.injEq, Prod.mk.injEq] at htail
            rcases htail with ⟨rfl, rfl⟩
            exact ((comesTo_laterCalls after' _).cons (Nat.le_refl _)).mono hlonger

/-- A call that is left open takes the text up to where its arguments end. All calls in between are
lost, and none of them has as long arguments. -/
theorem exists_taker (ha : LeavesOpen a) (hb : MayEndIn b) :
    ∃ kept lost taker rest, findCalls (a ++ ';' :: b) = kept ++ taker :: rest ∧
      findCalls a ++ findCalls b = kept ++ (lost ++ rest) ∧
        ∀ call ∈ lost, call.arguments.length < taker.arguments.length := by
  induction a using findCalls.induct with
  | case1 a ih =>
      by_cases hopen : IsOpenCall a
      · -- The call takes all up to the first end of arguments in `b`. The calls of `a` have no
        -- arguments, as none end there, and those of `b` before that end have shorter ones.
        have hsome : splitArguments? b ≠ none := fun hnone => splitArguments?_eq_none_iff.1 hnone hb
        rcases Option.ne_none_iff_exists'.1 hsome with ⟨⟨arguments, after⟩, hends⟩
        rcases hopen.splitCall?_append b with ⟨mnemonic, label, inner, hcall⟩
        simp only [hends, Option.map_some] at hcall
        rcases comesTo_findCalls hends with ⟨calls, hcalls, hshort⟩
        refine ⟨[], findCalls a ++ calls, _, _, findCalls_of_some hcall, by simp [hcalls], ?_⟩
        intro call hmem
        rcases List.mem_append.1 hmem with hcall | hcall
        · simp [arguments_eq_nil_of_mem_findCalls hopen.not_mayEndIn call hcall]
        · have hle := hshort call hcall
          simp only [List.length_cons, List.length_append]
          omega
      · -- The first command is read as before, and the open call is in what the scan goes on with.
        have hhere : ¬(IsOpenCall a ∧ MayEndIn b) := fun hboth => hopen hboth.1
        rcases ha.here_or_next.resolve_left hopen with ⟨next, hnext, hleaves⟩
        rcases ih next hnext hleaves with ⟨kept, lost, taker, rest, hjoined, hapart, hlost⟩
        refine ⟨firstCall a ++ kept, lost, taker, rest, ?_, ?_, hlost⟩
        · simp [findCalls_eq (a ++ ';' :: b), firstCall_append hhere, nextBoundary?_append hhere,
            hnext, hjoined]
        · simp [findCalls_eq a, hnext, hapart]

/-- Joined texts have the calls of the one and then those of the other, but for a call that the
first leaves open and the second closes. -/
theorem findCalls_append_iff (a b : List Char) :
    calledWith (a ++ ';' :: b) = calledWith a ++ calledWith b ↔
      ¬(LeavesOpen a ∧ MayEndIn b) := by
  constructor
  · rintro heq ⟨ha, hb⟩
    rcases exists_taker ha hb with ⟨kept, lost, taker, rest, hjoined, hapart, hlost⟩
    simp only [calledWith, ← List.map_append, hjoined, hapart] at heq
    simp only [List.map_append, List.map_cons] at heq
    have htaken : [(taker.label, taker.arguments)] =
        lost.map fun call => (call.label, call.arguments) :=
      List.append_cancel_right (List.append_cancel_left heq)
    have hmem : (taker.label, taker.arguments) ∈
        lost.map fun call => (call.label, call.arguments) := by
      simp [← htaken]
    simp only [List.mem_map, Prod.mk.injEq] at hmem
    rcases hmem with ⟨call, hcall, -, harguments⟩
    have hlt := hlost call hcall
    simp [harguments] at hlt
  · intro h
    simp [calledWith, findCalls_append h]

/-- The parenthesis of the second command closes the arguments that `JS#a` leaves open. -/
theorem open_call_takes_next_command :
    ¬∀ a b : List Char, '\n' ∉ a → '\n' ∉ b →
      calledWith (a ++ ';' :: b) = calledWith a ++ calledWith b := by
  intro h
  have hjoined := h "JS#a(x".toList "JS#b(y)".toList (by decide) (by decide)
  revert hjoined
  decide +kernel

end Program
end MotionController
