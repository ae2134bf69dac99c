import Mathlib
import Targeting.Proofs.DefinitionText.Joining
import Targeting.Proofs.Group.Loading

namespace Targeting.Group

variable {a b : String} {first second : List Definition}

theorem addAll_append (g : Group) (before after : List Criteria) :
    g.addAll (before ++ after) = (g.addAll before).addAll after := by
  simp only [addAll, List.foldl_append]

theorem loadText_of_built (g : Group) {all : List Criteria} (h : Definition.readAll a = .ok first)
    (hall : all.map Criteria.toDefinition = first) :
    g.loadText a = .ok (g.addAll all, first.length) := by
  rw [loadText, Criteria.readAll_eq h, Definition.buildAll_eq_ok_iff.mpr hall, ← hall,
    List.length_map]
  rfl

theorem loadText_join (g : Group) (ha : Definition.readAll a = .ok first)
    (hb : Definition.readAll b = .ok second) (hvalid : ∀ d ∈ first ++ second, d.fault? = none) :
    ∃ h k, g.loadText a = .ok (h, first.length) ∧ h.loadText b = .ok (k, second.length) ∧
      g.loadText (a ++ "\n" ++ b) = .ok (k, first.length + second.length) := by
  obtain ⟨built, -, hmap⟩ := Definition.buildAll_of_valid hvalid
  obtain ⟨before, after, rfl, hbefore, hafter⟩ := List.map_eq_append_iff.mp hmap
  have hjoin := g.loadText_of_built (Definition.readAll_join ha hb) hmap
  rw [addAll_append, List.length_append] at hjoin
  exact ⟨_, _, g.loadText_of_built ha hbefore, loadText_of_built _ hb hafter, hjoin⟩

-- Texts with a line feed between them define what they define one after the other, and after any
-- run loading them together is loading one and then the other.
theorem run_loadText_join (name : String) (config : GroupConfig) (changes : List Change)
    (ha : Definition.readAll a = .ok first) (hb : Definition.readAll b = .ok second) :
    Definition.readAll (a ++ "\n" ++ b) = .ok (first ++ second) ∧
      ((∀ d ∈ first ++ second, d.fault? = none) →
        ∃ h k, ((empty name config).run changes).loadText a = .ok (h, first.length) ∧
          h.loadText b = .ok (k, second.length) ∧
          ((empty name config).run changes).loadText (a ++ "\n" ++ b)
            = .ok (k, first.length + second.length)) :=
  ⟨Definition.readAll_join ha hb, loadText_join _ ha hb⟩

def openText : String := "dnf \"a\" \x7b (x in [1]) \x7d # open"

def nextText : String := "cnf \"b\" \x7b (y in range [0, 1] weight 2) and (x not matches \"z\") \x7d"

-- Whether a text defines this many criteria, and none of them has a fault.
def defines (text : String) (count : Nat) : Bool :=
  match Definition.readAll text with
  | .ok all => all.length == count && all.all (·.fault?.isNone)
  | .error _ => false

theorem exists_of_defines {text : String} {count : Nat} (h : defines text count = true) :
    ∃ all, Definition.readAll text = .ok all ∧ all.length = count ∧ ∀ d ∈ all, d.fault? = none := by
  rw [defines] at h
  split at h
  next all hread =>
    obtain ⟨hlength, hvalid⟩ := Bool.and_eq_true_iff.mp h
    exact ⟨all, hread, eq_of_beq hlength, by simpa using hvalid⟩
  next => cases h

-- A comment that is open at the end of the first text hides nothing of the second.
theorem loadText_open_next : ∃ h k, (empty "g" {}).loadText openText = .ok (h, 1) ∧
    h.loadText nextText = .ok (k, 1) ∧
    (empty "g" {}).loadText (openText ++ "\n" ++ nextText) = .ok (k, 2) := by
  have hopenText : defines openText 1 = true := by decide +kernel
  have hnextText : defines nextText 1 = true := by decide +kernel
  obtain ⟨first, hopen, hfirst, hvalid⟩ := exists_of_defines hopenText
  obtain ⟨second, hnext, hsecond, hvalid'⟩ := exists_of_defines hnextText
  have hloads := (run_loadText_join "g" {} [] hopen hnext).2
    fun d hd => (List.mem_append.mp hd).elim (hvalid d) (hvalid' d)
  rw [hfirst, hsecond] at hloads
  exact hloads

end Targeting.Group
