import Mathlib
import Targeting.Proofs.Criteria.Building
import Targeting.Proofs.Group.Refinement

namespace Targeting

namespace Group

variable {g : Group}

-- What is left of a group by something that either gives a new one or fails.
def settle {ε : Type} (g : Group) : Except ε (Group × Nat) → Group × Except ε Nat
  | .ok (h, count) => (h, .ok count)
  | .error fault => (g, .error fault)

-- What was built is not refused when it is checked again.
theorem addEach_criteria (g : Group) (all : List Criteria) :
    g.addEach (all.map Criteria.toDefinition) = (g.addAll all, none) := by
  induction all generalizing g with
  | nil => rfl
  | cons c rest ih =>
    rw [List.map_cons, addEach, tryAdd, Definition.build_criteria]
    exact ih (g.add c)

theorem loadEach_eq (g : Group) (text : String) : g.loadEach text = g.settle (g.loadText text) := by
  rw [loadEach, loadText]
  cases Criteria.readAll text with
  | error fault => rfl
  | ok all =>
    dsimp only
    rw [addEach_criteria]
    rfl

theorem loadFileEach_eq (g : Group) (content : Option ByteArray) :
    g.loadFileEach content = g.settle (g.loadFile content) := by
  rw [loadFileEach, loadFile]
  cases fileText content with
  | error fault => rfl
  | ok text =>
    dsimp only
    rw [loadEach_eq]
    cases g.loadText text <;> rfl

section Stored

theorem get?_add_of_ne {c : Criteria} {id : String} (h : id ≠ c.id) :
    (g.add c).get? id = g.get? id := by
  rw [Group.add]
  split
  · rfl
  · exact SortedMap.find?_insert_of_ne g.stored _ h

theorem stores_add (g : Group) (c : Criteria) : (g.add c).Stores c.id c.toDefinition := by
  rw [Group.add]
  split
  next hsame =>
    obtain ⟨old, hold, hsame⟩ := (Option.any_eq_true _ _).mp hsame
    exact ⟨old, hold, hsame⟩
  next => exact ⟨c, SortedMap.find?_insert_self g.stored _ _, c.same_self⟩

theorem get?_addAll_of_ne {all : List Criteria} {id : String} (h : ∀ c ∈ all, c.id ≠ id) :
    (g.addAll all).get? id = g.get? id := by
  induction all generalizing g with
  | nil => rfl
  | cons c rest ih =>
    have hrest := ih (g := g.add c) fun d hd => h d (List.mem_cons_of_mem _ hd)
    exact hrest.trans (get?_add_of_ne (h c List.mem_cons_self).symm)

-- Of criteria with one id the last is stored.
theorem stores_addAll {before after : List Criteria} {c : Criteria}
    (h : ∀ d ∈ after, d.id ≠ c.id) : (g.addAll (before ++ c :: after)).Stores c.id c.toDefinition := by
  have hsplit : g.addAll (before ++ c :: after) = ((g.addAll before).add c).addAll after := by
    rw [addAll, List.foldl_append]
    rfl
  obtain ⟨old, hold, hsame⟩ := (g.addAll before).stores_add c
  refine ⟨old, ?_, hsame⟩
  rw [hsplit, get?_addAll_of_ne h, hold]

end Stored

-- Loading a text adds all that it defines, or changes nothing.
structure Loads (g : Group) (text : String) : Prop where
  stepwise : g.settle (g.loadText text) = g.loadEach text
  malformed : ∀ fault, Definition.readAll text = .error fault →
    g.loadEach text = (g, .error (.text fault))
  invalid : ∀ before d after fault, Definition.readAll text = .ok (before ++ d :: after) →
    (∀ e ∈ before, e.fault? = none) → d.fault? = some fault →
    g.loadEach text = (g, .error (.definition fault))
  valid : ∀ all, Definition.readAll text = .ok all → (∀ d ∈ all, d.fault? = none) →
    ∃ h, g.addEach all = (h, none) ∧ g.loadEach text = (h, .ok all.length) ∧
      (∀ before d after, all = before ++ d :: after → (∀ e ∈ after, e.id ≠ d.id) → h.Stores d.id d) ∧
      ∀ id, (∀ d ∈ all, d.id ≠ id) → h.get? id = g.get? id

theorem loads (g : Group) (text : String) : g.Loads text where
  stepwise := (g.loadEach_eq text).symm
  malformed fault h := by rw [loadEach, Criteria.readAll, h]
  invalid before d after fault h hbefore hfault := by
    rw [loadEach, Criteria.readAll_eq h, Definition.buildAll_of_fault hbefore hfault]
    rfl
  valid all h hvalid := by
    obtain ⟨built, hbuilt, rfl⟩ := Definition.buildAll_of_valid hvalid
    refine ⟨g.addAll built, g.addEach_criteria built, ?_, ?_, ?_⟩
    · rw [loadEach, Criteria.readAll_eq h, hbuilt]
      dsimp only [Except.mapError]
      rw [addEach_criteria, List.length_map]
    · intro before d after hsplit hafter
      obtain ⟨first, last, rfl, rfl, hlast⟩ := List.map_eq_append_iff.mp hsplit
      obtain ⟨c, rest, rfl, rfl, rfl⟩ := List.map_eq_cons_iff.mp hlast
      exact stores_addAll fun e he => hafter e.toDefinition (List.mem_map_of_mem he)
    · intro id hid
      exact get?_addAll_of_ne fun c hc => hid c.toDefinition (List.mem_map_of_mem hc)

-- Loading a file is loading its text, if it has one.
structure LoadsFile (g : Group) (content : Option ByteArray) : Prop where
  stepwise : g.settle (g.loadFile content) = g.loadFileEach content
  missing : content = none → g.loadFileEach content = (g, .error .notFound)
  undecodable : ∀ bytes, content = some bytes → String.fromUTF8? bytes = none →
    g.loadFileEach content = (g, .error .notText)
  readable : ∀ bytes text, content = some bytes → String.fromUTF8? bytes = some text →
    g.loadFileEach content = ((g.loadEach text).1, (g.loadEach text).2.mapError .load)

theorem loadsFile (g : Group) (content : Option ByteArray) : g.LoadsFile content where
  stepwise := (g.loadFileEach_eq content).symm
  missing h := by rw [loadFileEach, h]; rfl
  undecodable bytes h hbytes := by rw [loadFileEach, h, fileText, hbytes]
  readable bytes text h hbytes := by rw [loadFileEach, h, fileText, hbytes]

-- After any run a text or a file is loaded as a whole or not at all.
theorem run_loads (name : String) (config : GroupConfig) (changes : List Change) :
    (∀ text, ((empty name config).run changes).Loads text) ∧
      ∀ content, ((empty name config).run changes).LoadsFile content :=
  ⟨loads _, loadsFile _⟩

end Group

end Targeting
