import ClusterAgent.Proofs.Grouping
import ClusterAgent.Proofs.MessagePack.Equality
import ClusterAgent.Proofs.Token.Storage

/-! Credentials by classes of aliases. However tokens come, one by one or listed in a file, there is
one entry for each class of equal aliases, with the alias that came first and the token that came
last. -/
namespace ClusterAgent

open MessagePack

namespace Alias

theorem beq_iff_same (a b : Alias) : (a == b) = true ↔ a.value.Same b.value :=
  Scalar.equals_iff_same a.value b.value

instance : PartialEquivBEq Alias where
  symm {a b} h := (beq_iff_same b a).mpr ((beq_iff_same a b).mp h).symm
  trans {a b c} hab hbc :=
    (beq_iff_same a c).mpr (((beq_iff_same a b).mp hab).trans ((beq_iff_same b c).mp hbc))

end Alias

namespace Credentials

/-- Adds tokens under aliases, one after the other. -/
def addEach (c : Credentials) (entries : List (Alias × Token)) : Credentials :=
  entries.foldl (fun c entry => c.add entry.1 entry.2) c

theorem addEach_empty (entries : List (Alias × Token)) :
    empty.addEach entries = Table.ofPairs entries := rfl

theorem token?_addEach {entries : List (Alias × Token)} {c : Table.KeyClass Alias Token}
    (hc : c ∈ Table.classes entries) {a : Alias} (ha : (c.key == a) = true) :
    (empty.addEach entries).token? a = some c.value := by
  have hentry : c.entry ∈ Table.ofPairs entries := by
    rw [Table.ofPairs_eq_map_entry]
    exact List.mem_map_of_mem hc
  exact Table.get?_of_beq (Table.distinct_ofPairs entries) hentry ha

end Credentials

namespace TokenFile

/-- The file is a token file, of the version that is known, whose tokens are these entries. -/
def Lists (file : List UInt8) (entries : List (Alias × Token)) : Prop :=
  ∃ members v items, decode file = .ok (.map members) ∧
    Value.entry? members "magic" = some (.text magic) ∧
    Value.entry? members "version" = some v ∧ isVersion v = true ∧
    ((Value.entry? members "tokens").getD (.array [])).elements? = some items ∧
    List.Forall₂ (fun item entry => readEntry item = .ok entry) items entries

theorem readEntries_of_forall₂ {items : List Value} {entries : List (Alias × Token)}
    (h : List.Forall₂ (fun item entry => readEntry item = .ok entry) items entries)
    (c : Credentials) : readEntries c items = .ok (c.addEach entries) := by
  induction h generalizing c with
  | nil => rfl
  | cons hitem _ ih =>
    rw [readEntries, hitem]
    exact ih _

theorem read_of_lists {file : List UInt8} {entries : List (Alias × Token)}
    (h : Lists file entries) : read file = .ok (Credentials.empty.addEach entries) := by
  obtain ⟨members, v, items, hdecode, hmagic, hversion, hknown, hitems, hentries⟩ := h
  have hword : ¬ magic ≠ magic := not_not.mpr rfl
  have hother : ¬ (!isVersion v) = true := by simp [hknown]
  rw [← readEntries_of_forall₂ hentries Credentials.empty]
  unfold read
  rw [hdecode]
  dsimp only [ofDocument]
  rw [hmagic, hversion]
  dsimp only [Value.text, Option.getD_some]
  rw [if_neg hword, if_neg hother, hitems]

/-- Any entries that have headers are listed by a file, whatever aliases of them are equal. -/
theorem lists_of_write? {entries : List (Alias × Token)} {file : List UInt8}
    (h : write? entries = some file) : Lists file entries := by
  have hversion : isVersion (.scalar (.int version)) = true := by decide
  refine ⟨_, _, entries.map entryValue,
    decode_encode? (proper_document entries) h, ?_, ?_, hversion,
    ?_, ?_⟩
  · simp [Value.entry?, Table.get?]
  · simp [Value.entry?, Table.get?]
  · simp [Value.entry?, Table.get?, Value.elements?, entryValue]
  · rw [List.forall₂_map_left_iff, List.forall₂_same]
    exact fun entry _ => readEntry_entryValue entry

end TokenFile

namespace Credentials

/-- Of entries under any aliases there is one for each class of aliases that are the same value, in
the order of the first entry of each class, under the alias of that entry and with the token of the
last. An alias that equals the one of a class has its token, and a file that lists the entries reads
the same. -/
theorem addEach_eq_map_entry (entries : List (Alias × Token)) :
    (∀ a b : Alias, (a == b) = true ↔ a.value.Same b.value) ∧
      Table.Grouped entries (Table.classes entries) ∧
      empty.addEach entries = (Table.classes entries).map Table.KeyClass.entry ∧
      (empty.addEach entries).length = (Table.classes entries).length ∧
      (∀ c ∈ Table.classes entries, ∀ a : Alias, (c.key == a) = true →
        (empty.addEach entries).token? a = some c.value) ∧
      ∀ file, TokenFile.Lists file entries → TokenFile.read file = .ok (empty.addEach entries) := by
  have hentries : empty.addEach entries = (Table.classes entries).map Table.KeyClass.entry :=
    (addEach_empty entries).trans (Table.ofPairs_eq_map_entry entries)
  refine ⟨Alias.beq_iff_same, Table.grouped_classes entries, hentries, ?_, ?_, ?_⟩
  · rw [hentries, List.length_map]
  · exact fun c hc a ha => token?_addEach hc ha
  · exact fun file hfile => TokenFile.read_of_lists hfile

/-- One in three kinds, an undefined number twice, and a text next to its bytes. -/
def mixedEntries : List (Alias × Token) :=
  let token (name : String) : Token := ⟨name, [], "", ""⟩
  [(⟨.int 1⟩, token "a"), (⟨.float 0x7FF8000000000000⟩, token "b"), (⟨.text "1"⟩, token "c"),
    (⟨.bool true⟩, token "d"), (⟨.float 0x7FF8000000000000⟩, token "e"),
    (⟨.bytes [0x31]⟩, token "f"), (⟨.float 0x3FF0000000000000⟩, token "g")]

example : (empty.addEach mixedEntries).map (fun entry => entry.2.identifier) =
    ["g", "b", "c", "e", "f"] := by
  decide +kernel

end Credentials
end ClusterAgent
