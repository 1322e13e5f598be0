import MotionController.Proofs.Parameter.Reading
import MotionController.Settings.Document

/-!
# Refreshing and checking documents

Refreshing and checking send the same commands, so that a check tells what a refresh will do
(`check_predicts_refresh`): it fails the same way, or it reports the parameters whose value on file
the refresh replaces by one that does not match it (`Reports`).

A refreshed document holds the values that the controller gives (`IsCurrent`). Over a steady channel
it goes on to do so: a later check has nothing to report, and a later refresh changes nothing
(`refresh_settles`).
-/

namespace MotionController
namespace Settings
namespace Document

variable {σ : Type} [CommandChannel σ] {channel after later : σ}

/-! ## One parameter after another -/

theorem refreshItems_parameter (p : Parameter) (items : List Item) (channel : σ) :
    refreshItems (.parameter p :: items) channel =
      match p.read.on channel with
      | (.ok value, after) =>
          let rest := refreshItems items after
          (rest.1, .parameter (p.cached value) :: rest.2.1, rest.2.2)
      | (.error error, after) => (.error error, .parameter p :: items, after) := by
  simp only [refreshItems, Parameter.get_true]
  rcases p.read.on channel with ⟨error | value, after⟩ <;> rfl

theorem on_checkItems_parameter (p : Parameter) (items : List Item) (channel : σ) :
    (checkItems (.parameter p :: items)).on channel =
      match p.read.on channel with
      | (.ok value, after) =>
          let rest := (checkItems items).on after
          (rest.1.map fun changes =>
            if p.hasDrifted value then changeOf p value :: changes else changes, rest.2)
      | (.error error, after) => (.error error, after) := by
  simp only [checkItems, Session.on_bind, Parameter.on_drift]
  rcases p.read.on channel with ⟨error | value, after⟩
  · rfl
  · rcases hrest : (checkItems items).on after with ⟨error | changes, last⟩
    · simp [hrest, Except.map]
    · cases hdrift : p.hasDrifted value <;> simp [hrest, hdrift, Except.map]

/-! ## Checking foretells refreshing -/

/-- The changes that tell the parameters of a document, in order, from those it has after a refresh:
there is one for each parameter that had no value, or one that the new value does not match. -/
inductive Reports : List Parameter → List Parameter → List Change → Prop where
  | nil : Reports [] [] []
  | unchanged {p q : Parameter} {ps qs : List Parameter} {changes : List Change}
      {current desired : String} (hnew : q.value = some current) (hold : p.value = some desired)
      (hmatch : Parameter.isMatch p.kind current desired = true) (h : Reports ps qs changes) :
      Reports (p :: ps) (q :: qs) changes
  | changed {p q : Parameter} {ps qs : List Parameter} {changes : List Change} {current : String}
      (hnew : q.value = some current)
      (hold : ∀ desired, p.value = some desired → Parameter.isMatch p.kind current desired = false)
      (h : Reports ps qs changes) :
      Reports (p :: ps) (q :: qs)
        ({ name := p.mnemonic, file := p.source.map (·.file), line := p.source.map (·.line),
           old := p.value, new := current } :: changes)

/-- What a check says about the refresh that takes the parameters `before` to those `after` it. -/
inductive Predicts (before after : List Parameter) :
    Except DeviceError (List Change) → Except DeviceError Unit → Prop where
  | failed (error : DeviceError) : Predicts before after (.error error) (.error error)
  | reported {changes : List Change} (h : Reports before after changes) :
      Predicts before after (.ok changes) (.ok ())

theorem Reports.cons_cached {p : Parameter} {ps qs : List Parameter} {changes : List Change}
    (value : String) (h : Reports ps qs changes) :
    Reports (p :: ps) (p.cached value :: qs)
      (if p.hasDrifted value then changeOf p value :: changes else changes) := by
  cases hdrift : p.hasDrifted value with
  | true =>
      refine .changed rfl ?_ h
      intro desired hdesired
      simpa [Parameter.hasDrifted, hdesired] using hdrift
  | false =>
      cases hold : p.value with
      | none => simp [Parameter.hasDrifted, hold] at hdrift
      | some desired =>
          have hmatch : Parameter.isMatch p.kind value desired = true := by
            simpa [Parameter.hasDrifted, hold] using hdrift
          exact .unchanged rfl hold hmatch h

theorem checkItems_predicts_refreshItems (items : List Item) (channel : σ) :
    ((checkItems items).on channel).2 = (refreshItems items channel).2.2 ∧
      Predicts (items.filterMap parameterOf?)
        ((refreshItems items channel).2.1.filterMap parameterOf?)
        ((checkItems items).on channel).1 (refreshItems items channel).1 := by
  induction items generalizing channel with
  | nil => exact ⟨rfl, .reported .nil⟩
  | cons item items ih =>
      cases item with
      | literal text => exact ih channel
      | parameter p =>
          rw [refreshItems_parameter, on_checkItems_parameter]
          rcases p.read.on channel with ⟨error | value, after⟩
          · exact ⟨rfl, .failed error⟩
          · obtain ⟨hchannel, hrest⟩ := ih after
            refine ⟨hchannel, ?_⟩
            -- Both go on in the same state, so that what the rest predicts is all that is left.
            dsimp only [List.filterMap_cons, parameterOf?]
            generalize ((checkItems items).on after).1 = checked at hrest ⊢
            generalize (refreshItems items after).1 = refreshed at hrest ⊢
            cases hrest with
            | failed error => exact .failed error
            | reported h => exact .reported (h.cons_cached value)

theorem bySending_checkItems (items : List Item) :
    (checkItems items : Session σ (List Change)).BySending := by
  induction items with
  | nil => exact .pure []
  | cons item items ih =>
      cases item with
      | literal text => exact ih
      | parameter p =>
          apply (Parameter.bySending_drift p).bind
          intro drift
          apply ih.bind
          intro changes
          cases drift <;> exact .pure _

/-- Checking and refreshing leave a script in the same state, in which the same commands were sent,
and a check says whether and how a refresh fails, else which values it replaces and by what. -/
theorem check_predicts_refresh (document : Document) (channel : Channel) :
    (document.check.on channel).2 = (document.refresh channel).2.2 ∧
      Predicts document.parameters (document.refresh channel).2.1.parameters
        (document.check.on channel).1 (document.refresh channel).1 :=
  checkItems_predicts_refreshItems document.items channel

/-! ## Refreshed documents -/

/-- The parameter's value on file is the one that the controller gives. -/
def IsCurrent (channel : σ) (p : Parameter) : Prop :=
  ∃ value, p.value = some value ∧ (p.read.on channel).1 = .ok value

/-- An item of a refreshed document: a literal as it was, or a parameter with the value that was
read at some time. -/
inductive IsRefreshed (items : List Item) (channel : σ) : Item → Prop where
  | literal {text : String} (h : .literal text ∈ items) : IsRefreshed items channel (.literal text)
  | parameter {p : Parameter} {value : String} {later : σ} (h : .parameter p ∈ items)
      (hlater : Reaches channel later) (hread : (p.read.on later).1 = .ok value) :
      IsRefreshed items channel (.parameter (p.cached value))

theorem IsRefreshed.cons {items : List Item} {item : Item} (first : Item)
    (hlater : Reaches channel later) (h : IsRefreshed items later item) :
    IsRefreshed (first :: items) channel item := by
  cases h with
  | literal h => exact .literal (List.mem_cons_of_mem first h)
  | parameter h hthen hread =>
      exact .parameter (List.mem_cons_of_mem first h) (hlater.trans hthen) hread

theorem isRefreshed_of_mem {items : List Item} {item : Item}
    (hrefresh : (refreshItems items channel).1 = .ok ())
    (h : item ∈ (refreshItems items channel).2.1) : IsRefreshed items channel item := by
  induction items generalizing channel with
  | nil => cases h
  | cons first items ih =>
      cases first with
      | literal text =>
          rcases List.mem_cons.1 h with rfl | h
          · exact .literal List.mem_cons_self
          · exact (ih hrefresh h).cons _ .refl
      | parameter p =>
          have hnext := (Parameter.bySending_read p).reaches channel
          rw [refreshItems_parameter] at hrefresh h
          cases hread : p.read.on channel with
          | mk result next =>
              rw [hread] at hrefresh h hnext
              cases result with
              | error error => cases hrefresh
              | ok value =>
                  -- The rest was read behind this parameter, at a later time.
                  rcases List.mem_cons.1 h with rfl | h
                  · exact .parameter List.mem_cons_self .refl (congrArg (·.1) hread)
                  · exact (ih hrefresh h).cons _ hnext

/-- What a refresh reads is what a steady channel gives at any time. -/
theorem isCurrent_of_refreshItems {items : List Item} (hsteady : IsSteady channel)
    (hrefresh : (refreshItems items channel).1 = .ok ()) :
    ∀ p ∈ (refreshItems items channel).2.1.filterMap parameterOf?, IsCurrent channel p := by
  intro p hp
  obtain ⟨item, hitem, hparameter⟩ := List.mem_filterMap.1 hp
  cases isRefreshed_of_mem hrefresh hitem with
  | literal h => cases hparameter
  | @parameter q value later h hlater hread =>
      cases hparameter
      exact ⟨value, rfl, ((Parameter.bySending_read q).on_later hsteady hlater).symm.trans hread⟩

/-- Nothing changes when what is on file is current. -/
theorem refreshItems_of_isCurrent {items : List Item}
    (hcurrent : ∀ p ∈ items.filterMap parameterOf?, IsCurrent channel p)
    (hsteady : IsSteady channel) (hlater : Reaches channel later) :
    ∃ last, refreshItems items later = (.ok (), items, last) := by
  induction items generalizing later with
  | nil => exact ⟨later, rfl⟩
  | cons item items ih =>
      cases item with
      | literal text =>
          obtain ⟨last, hlast⟩ := ih hcurrent hlater
          exact ⟨last, by simp [refreshItems, hlast]⟩
      | parameter p =>
          obtain ⟨value, hvalue, hread⟩ := hcurrent p (List.mem_cons_self ..)
          have hsame := (Parameter.bySending_read p).on_later hsteady hlater
          have hnext := hlater.trans ((Parameter.bySending_read p).reaches later)
          rw [refreshItems_parameter]
          -- What is read now is what is on file, so that keeping it changes nothing.
          generalize p.read.on later = outcome at hsame hnext ⊢
          obtain ⟨result, next⟩ := outcome
          obtain rfl : result = .ok value := hsame.trans hread
          obtain ⟨last, hlast⟩ := ih (fun q hq => hcurrent q (List.mem_cons_of_mem _ hq)) hnext
          exact ⟨last, by simp [hlast, Parameter.cached_of_value hvalue]⟩

/-- There is nothing to report about values that stay. -/
theorem Reports.eq_nil {ps : List Parameter} {changes : List Change} (h : Reports ps ps changes) :
    changes = [] := by
  induction ps generalizing changes with
  | nil =>
      cases h
      rfl
  | cons p ps ih =>
      cases h with
      | unchanged _ _ _ h => exact ih h
      | changed hnew hold _ =>
          have hmatch := hold _ hnew
          simp [Parameter.isMatch_self] at hmatch

/-- Over a steady channel a refreshed document agrees with the controller ever after: a check
reports no change, and another refresh succeeds and leaves the document as it is. -/
theorem refresh_settles {document refreshed : Document} (hsteady : IsSteady channel)
    (hrefresh : document.refresh channel = (.ok (), refreshed, after))
    (hlater : Reaches after later) :
    (refreshed.check.on later).1 = .ok [] ∧
      ∃ last, refreshed.refresh later = (.ok (), refreshed, last) := by
  have hresult : (refreshItems document.items channel).1 = .ok () := congrArg (·.1) hrefresh
  have hitems : (refreshItems document.items channel).2.1 = refreshed.items :=
    congrArg (·.2.1.items) hrefresh
  have hafter : (refreshItems document.items channel).2.2 = after := congrArg (·.2.2) hrefresh
  have hreaches : Reaches channel later := by
    have hsent := (bySending_checkItems document.items).reaches channel
    rw [(checkItems_predicts_refreshItems document.items channel).1, hafter] at hsent
    exact hsent.trans hlater
  have hcurrent := isCurrent_of_refreshItems hsteady hresult
  rw [hitems] at hcurrent
  obtain ⟨last, hlast⟩ := refreshItems_of_isCurrent hcurrent hsteady hreaches
  have hpredicts := (checkItems_predicts_refreshItems refreshed.items later).2
  rw [hlast] at hpredicts
  refine ⟨?_, last, by simp [refresh, hlast]⟩
  -- The check succeeds because the refresh does, and no value was replaced.
  unfold check
  generalize ((checkItems refreshed.items).on later).1 = checked at hpredicts ⊢
  cases hpredicts with
  | reported h => rw [h.eq_nil]

theorem refresh_settles_mixed_kinds :
    ∃ refreshed after,
      refresh
          ⟨[.literal "#AUTO",
            .parameter { kind := .vector 2, name := "CN", value := some "1,2" },
            .parameter { kind := .ssiQuery 'A', name := "SI" },
            .parameter { kind := .network, name := "IA", value := some "10,10,10,2" },
            .parameter { kind := .axisMask, name := "BA", axes := some "ABC" }]⟩
          (Channel.mk
            [("MG_CN0", .ok "NaN"), ("MG_CN1", .ok "-1"), ("MG_IA0", .ok "168430082.0000"),
             ("MG_BAA", .ok "1"), ("MG_BAB", .ok "?"), ("MG_BAC", .ok "2")] [] []) =
          (.ok (), refreshed, after) ∧
        (refreshed.check.on after).1 = .ok [] ∧
          ∃ last, refreshed.refresh after = (.ok (), refreshed, last) := by
  have hrefresh :
      refresh
          ⟨[.literal "#AUTO",
            .parameter { kind := .vector 2, name := "CN", value := some "1,2" },
            .parameter { kind := .ssiQuery 'A', name := "SI" },
            .parameter { kind := .network, name := "IA", value := some "10,10,10,2" },
            .parameter { kind := .axisMask, name := "BA", axes := some "ABC" }]⟩
          (Channel.mk
            [("MG_CN0", .ok "NaN"), ("MG_CN1", .ok "-1"), ("MG_IA0", .ok "168430082.0000"),
             ("MG_BAA", .ok "1"), ("MG_BAB", .ok "?"), ("MG_BAC", .ok "2")] [] []) =
        (.ok (),
          ⟨[.literal "#AUTO",
            .parameter { kind := .vector 2, name := "CN", value := some "NaN,-1" },
            .parameter { kind := .ssiQuery 'A', name := "SI", value := some "0" },
            .parameter { kind := .network, name := "IA", value := some "10.10.10.2" },
            .parameter
              { kind := .axisMask, name := "BA", value := some "AC", axes := some "ABC" }]⟩,
          Channel.mk
            [("MG_CN0", .ok "NaN"), ("MG_CN1", .ok "-1"), ("MG_IA0", .ok "168430082.0000"),
             ("MG_BAA", .ok "1"), ("MG_BAB", .ok "?"), ("MG_BAC", .ok "2")] []
            ["MG_CN0", "MG_CN1", "SIA=?", "MG_IA0", "MG_BAA", "MG_BAB", "MG_BAC"]) := by
    decide +kernel
  exact ⟨_, _, hrefresh, refresh_settles (Channel.isSteady_of_queued_nil rfl) hrefresh .refl⟩

end Document
end Settings
end MotionController
