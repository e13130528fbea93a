import Marginalia.Proofs.Except
import Marginalia.Proofs.Value.Keyed
import Marginalia.Yaml.Reader

/-!
# What is read has distinct keys

However often a document says a key, and whatever its mappings take from others, no mapping that is
read from it has a key twice.
-/

namespace Marginalia

namespace Yaml

open Value

/-! ## Scalars -/

theorem isKeyed_of_plainValue {content : Text} {value : Value}
    (found : plainValue content = .ok value) : value.IsKeyed := by
  unfold plainValue at found
  split at found
  · obtain rfl := Except.ok.inj found
    exact .null
  split at found
  · obtain rfl := Except.ok.inj found
    exact .bool _
  · obtain ⟨number, -, rfl⟩ := map_eq_ok_iff.mp found
    exact .integer number
  · obtain rfl := Except.ok.inj found
    exact .decimal _
  · obtain rfl := Except.ok.inj found
    exact .text content

theorem isKeyed_of_taggedValue {tag content : Text} {value : Value}
    (found : taggedValue tag content = .ok value) : value.IsKeyed := by
  unfold taggedValue at found
  split at found
  · obtain rfl := Except.ok.inj found
    exact .text content
  split at found
  · obtain rfl := Except.ok.inj found
    exact .null
  split at found
  · split at found
    · obtain rfl := Except.ok.inj found
      exact .bool _
    · cases found
  split at found
  · split at found
    · obtain ⟨number, -, rfl⟩ := map_eq_ok_iff.mp found
      exact .integer number
    · cases found
  split at found
  · split at found
    · obtain rfl := Except.ok.inj found
      exact .decimal _
    · cases found
  · cases found

theorem isKeyed_of_scalarValue {tag : Option Text} {content : Text} {isPlain : Bool}
    {value : Value} (found : scalarValue tag content isPlain = .ok value) : value.IsKeyed := by
  unfold scalarValue at found
  split at found
  · exact isKeyed_of_taggedValue found
  split at found
  · obtain rfl := Except.ok.inj found
    exact .text content
  split at found
  · cases found
  · exact isKeyed_of_plainValue found

/-! ## Mappings -/

theorem isKeyed_putAll {added entries : List (Value × Value)}
    (addedKeyed : ∀ entry ∈ added, entry.2.IsKeyed) (keyed : IsKeyed (.mapping entries)) :
    IsKeyed (.mapping (putAll added entries)) := by
  induction added generalizing entries with
  | nil => exact keyed
  | cons entry added induct =>
      obtain ⟨first, rest⟩ := List.forall_mem_cons.mp addedKeyed
      exact induct rest (keyed.put entry.1 first)

theorem isKeyed_of_mem_mergedEntries {value : Value} {merged : List (Value × Value)}
    (keyed : value.IsKeyed) (found : mergedEntries value = .ok merged) :
    ∀ entry ∈ merged, entry.2.IsKeyed := by
  cases value with
  | mapping entries =>
      obtain rfl : entries = merged := Except.ok.inj found
      exact ((isKeyed_mapping_iff entries).mp keyed).2
  | list items =>
      obtain ⟨parts, areParts, last⟩ := bind_eq_ok_iff.mp found
      obtain rfl := Except.ok.inj last
      intro entry isEntry
      obtain ⟨part, isPart, isEntry⟩ := List.mem_flatten.mp isEntry
      obtain ⟨item, isItem, made⟩ :=
        (mem_iff_of_mapM_eq_ok areParts part).mp (List.mem_reverse.mp isPart)
      have itemKeyed := (isKeyed_list_iff items).mp keyed item isItem
      cases item with
      | mapping entries =>
          obtain rfl : entries = part := Except.ok.inj made
          exact ((isKeyed_mapping_iff entries).mp itemKeyed).2 entry isEntry
      | _ => cases made
  | _ => cases found

/-! ## Nodes

The induction is on the node, along with its items and its entries; of the entries taken from other
mappings only the values matter, as all keys are set one after the other in the end. -/

mutual

/-- A value that is made from a node has distinct keys. -/
theorem isKeyed_of_valueOf : ∀ {node : Node} {value : Value},
    valueOf node = .ok value → value.IsKeyed
  | .scalar tag content isPlain, value, found => by
      rw [valueOf] at found
      exact isKeyed_of_scalarValue found
  | .sequence tag items, value, found => by
      rw [valueOf] at found
      split at found
      · obtain ⟨values, areValues, rfl⟩ := map_eq_ok_iff.mp found
        exact .list (isKeyed_of_valuesOf areValues)
      · cases found
  | .mapping tag entries, value, found => by
      rw [valueOf] at found
      split at found
      · obtain ⟨⟨merged, own⟩, areEntries, last⟩ := bind_eq_ok_iff.mp found
        obtain rfl := Except.ok.inj last
        obtain ⟨mergedKeyed, ownKeyed⟩ := isKeyed_of_entriesOf areEntries
        exact isKeyed_putAll ownKeyed (isKeyed_putAll mergedKeyed isKeyed_nil)
      · cases found

theorem isKeyed_of_valuesOf : ∀ {items : List Node} {values : List Value},
    valuesOf items = .ok values → ∀ value ∈ values, value.IsKeyed
  | [], values, found => by
      rw [valuesOf] at found
      obtain rfl := Except.ok.inj found
      simp
  | item :: items, values, found => by
      rw [valuesOf] at found
      obtain ⟨first, isFirst, rest⟩ := bind_eq_ok_iff.mp found
      obtain ⟨others, areOthers, last⟩ := bind_eq_ok_iff.mp rest
      obtain rfl := Except.ok.inj last
      exact List.forall_mem_cons.mpr
        ⟨isKeyed_of_valueOf isFirst, isKeyed_of_valuesOf areOthers⟩

theorem isKeyed_of_entriesOf : ∀ {nodes : List (Node × Node)}
    {merged own : List (Value × Value)}, entriesOf nodes = .ok (merged, own) →
    (∀ entry ∈ merged, entry.2.IsKeyed) ∧ ∀ entry ∈ own, entry.2.IsKeyed
  | [], merged, own, found => by
      rw [entriesOf] at found
      obtain ⟨rfl, rfl⟩ := Prod.mk.inj (Except.ok.inj found)
      simp
  | (key, node) :: nodes, merged, own, found => by
      rw [entriesOf] at found
      split at found
      · obtain ⟨value, isValue, rest⟩ := bind_eq_ok_iff.mp found
        obtain ⟨taken, areTaken, rest⟩ := bind_eq_ok_iff.mp rest
        obtain ⟨⟨more, others⟩, areEntries, last⟩ := bind_eq_ok_iff.mp rest
        obtain ⟨rfl, rfl⟩ := Prod.mk.inj (Except.ok.inj last)
        obtain ⟨moreKeyed, ownKeyed⟩ := isKeyed_of_entriesOf areEntries
        have takenKeyed := isKeyed_of_mem_mergedEntries (isKeyed_of_valueOf isValue) areTaken
        exact ⟨List.forall_mem_append.mpr ⟨takenKeyed, moreKeyed⟩, ownKeyed⟩
      · obtain ⟨keyValue, -, rest⟩ := bind_eq_ok_iff.mp found
        obtain ⟨value, isValue, rest⟩ := bind_eq_ok_iff.mp rest
        obtain ⟨⟨more, others⟩, areEntries, last⟩ := bind_eq_ok_iff.mp rest
        obtain ⟨rfl, rfl⟩ := Prod.mk.inj (Except.ok.inj last)
        obtain ⟨mergedKeyed, ownKeyed⟩ := isKeyed_of_entriesOf areEntries
        exact ⟨mergedKeyed, List.forall_mem_cons.mpr ⟨isKeyed_of_valueOf isValue, ownKeyed⟩⟩

end

/-- No mapping of a document that is read has a key twice. -/
theorem isKeyed_of_read {text : Text} {value : Value} (found : read text = .ok value) :
    value.IsKeyed := by
  unfold read at found
  split at found
  · cases found
  split at found
  · cases found
  · obtain rfl := Except.ok.inj found
    exact .null
  · exact isKeyed_of_valueOf found

end Yaml

end Marginalia
