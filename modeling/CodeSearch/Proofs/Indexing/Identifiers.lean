import CodeSearch.Proofs.Indexing.ChunkIds
import CodeSearch.Proofs.Indexing.Parts
import CodeSearch.Proofs.Splitting.Windows
import Mathlib.Data.List.Nodup

/-!
# Identifiers of parts

An identifier is a text, but it can be taken apart again: what stands behind its last colon tells
whether the chunk was stored in several parts, and what is before the line is the label of the
chunk. So two parts share an identifier only if their chunks share a label and a line and are both
split or both not.

- `Part.id_eq_iff`: when two parts have the same identifier.
- `Chunk.key`: what the identifiers of a chunk depend on; `Indexer.nodup_ids_iff` says that all
  identifiers are different if these keys are.
- `Chunk.label_eq_iff_of_names`, `Chunk.label_eq_iff_of_path`: what a label says of a chunk.
-/

namespace CodeSearch

/-! ## Labels and lines -/

/-- What stands before the line in the identifiers of a chunk. -/
def Chunk.label (chunk : Chunk) : String :=
  chunk.file.path ++ ":" ++ chunk.kind ++ ":" ++ chunk.name

/-- Two parts have the same identifier if their chunks have the same label and line, and both are
the only parts of their chunks or have the same number. -/
theorem Part.id_eq_iff {part other : Part} :
    part.id = other.id ↔
      part.chunk.label = other.chunk.label ∧ part.chunk.startLine = other.chunk.startLine ∧
        (1 < part.total ↔ 1 < other.total) ∧ (1 < part.total → part.index = other.index) := by
  rw [Part.id, Part.id, chunkId_eq_iff_label, Chunk.label, Chunk.label]

/-! ## Chunks with different identifiers -/

/-- The places of the items of a list increase. -/
theorem pairwise_zipIdx {α : Type} (items : List α) :
    items.zipIdx.Pairwise fun a b => a.2 < b.2 := by
  have hplaces : (items.zipIdx.map Prod.snd).Pairwise (· < ·) := by
    rw [List.zipIdx_map_snd]
    exact List.pairwise_lt_range'
  exact List.pairwise_map.mp hplaces

/-- What the identifiers of the parts of a chunk depend on, beside the number of the part. -/
def Chunk.key (splitter : Splitter) (chunk : Chunk) : String × Nat × Bool :=
  (chunk.label, chunk.startLine, decide (1 < (splitter.split chunk.code).length))

namespace Part

variable {splitter : Splitter} {chunk other : Chunk} {part part' : Part}

theorem mem_ofChunk (h : part ∈ ofChunk splitter chunk) :
    part.chunk = chunk ∧ part.total = (splitter.split chunk.code).length ∧
      part.index < part.total := by
  obtain ⟨window, hwindow, rfl⟩ := List.mem_map.mp h
  obtain ⟨-, hindex, -⟩ := List.mem_zipIdx hwindow
  exact ⟨rfl, rfl, by simpa using hindex⟩

theorem ofChunk_ne_nil (splitter : Splitter) (chunk : Chunk) : ofChunk splitter chunk ≠ [] := by
  obtain ⟨pieces, -, -, hpacked, -⟩ := splitter.windows_packed chunk.code.toList
  obtain ⟨window, windows, hwindows⟩ := hpacked.exists_cons
  intro hnil
  have hlength := length_ofChunk splitter chunk
  rw [hnil, Splitter.split, hwindows] at hlength
  cases hlength

/-- The parts of a chunk have different identifiers. -/
theorem nodup_ids_ofChunk (splitter : Splitter) (chunk : Chunk) :
    ((ofChunk splitter chunk).map id).Nodup := by
  have hindexes : (ofChunk splitter chunk).Pairwise fun a b => a.index ≠ b.index := by
    rw [ofChunk, List.pairwise_map]
    exact (pairwise_zipIdx (splitter.split chunk.code)).imp Nat.ne_of_lt
  rw [List.Nodup, List.pairwise_map]
  refine hindexes.imp_of_mem fun ha hb hne heq => ?_
  obtain ⟨-, hatotal, haindex⟩ := mem_ofChunk ha
  obtain ⟨-, hbtotal, hbindex⟩ := mem_ofChunk hb
  obtain ⟨-, -, -, hindex⟩ := id_eq_iff.mp heq
  -- A part that is the only one has the number 0.
  by_cases hsplit : 1 < (splitter.split chunk.code).length
  · exact hne (hindex (hatotal ▸ hsplit))
  · omega

/-- Chunks that share an identifier have the same key. -/
theorem key_eq_of_id_eq (hpart : part ∈ ofChunk splitter chunk)
    (hpart' : part' ∈ ofChunk splitter other) (h : part.id = part'.id) :
    chunk.key splitter = other.key splitter := by
  obtain ⟨hlabel, hline, hsplit, -⟩ := id_eq_iff.mp h
  obtain ⟨rfl, htotal, -⟩ := mem_ofChunk hpart
  obtain ⟨rfl, htotal', -⟩ := mem_ofChunk hpart'
  rw [htotal, htotal'] at hsplit
  rw [Chunk.key, Chunk.key, hlabel, hline, decide_eq_decide.mpr hsplit]

/-- Chunks with the same key share the identifier of their first parts. -/
theorem exists_id_eq_of_key_eq (h : chunk.key splitter = other.key splitter) :
    ∃ part ∈ ofChunk splitter chunk, ∃ part' ∈ ofChunk splitter other, part.id = part'.id := by
  have hfirst : ∀ chunk, ∃ part ∈ ofChunk splitter chunk, part.index = 0 := by
    intro chunk
    have hpositive : 0 < (splitter.split chunk.code).length := by
      rw [← length_ofChunk]
      exact List.length_pos_iff.mpr (ofChunk_ne_nil splitter chunk)
    exact ⟨_, List.mem_of_getElem? (ofChunk_getElem? splitter chunk hpositive), rfl⟩
  obtain ⟨part, hpart, hindex⟩ := hfirst chunk
  obtain ⟨part', hpart', hindex'⟩ := hfirst other
  refine ⟨part, hpart, part', hpart', id_eq_iff.mpr ?_⟩
  obtain ⟨rfl, htotal, -⟩ := mem_ofChunk hpart
  obtain ⟨rfl, htotal', -⟩ := mem_ofChunk hpart'
  rw [Chunk.key, Chunk.key, Prod.mk.injEq, Prod.mk.injEq, decide_eq_decide] at h
  obtain ⟨hlabel, hline, hsplit⟩ := h
  rw [htotal, htotal', hindex, hindex']
  exact ⟨hlabel, hline, hsplit, fun _ => rfl⟩

end Part

/-- All identifiers of some chunks are different if and only if their keys are. -/
theorem Indexer.nodup_ids_iff {ε σ τ : Type} (indexer : Indexer ε σ τ) (chunks : List Chunk) :
    ((indexer.parts chunks).map Part.id).Nodup ↔
      (chunks.map (Chunk.key indexer.splitter)).Nodup := by
  have hkeys : (chunks.map (Chunk.key indexer.splitter)).Nodup ↔
      chunks.Pairwise fun chunk other =>
        chunk.key indexer.splitter ≠ other.key indexer.splitter := List.pairwise_map
  rw [parts, List.map_flatMap, List.nodup_flatMap, hkeys]
  constructor
  · rintro ⟨-, hdisjoint⟩
    refine hdisjoint.imp fun hdisjoint hkey => ?_
    obtain ⟨part, hpart, part', hpart', heq⟩ := Part.exists_id_eq_of_key_eq hkey
    exact hdisjoint (List.mem_map_of_mem hpart) (heq ▸ List.mem_map_of_mem hpart')
  · intro hkeys
    refine ⟨fun chunk _ => Part.nodup_ids_ofChunk indexer.splitter chunk, ?_⟩
    refine hkeys.imp fun hkey id hid hid' => ?_
    obtain ⟨part, hpart, rfl⟩ := List.mem_map.mp hid
    obtain ⟨part', hpart', heq⟩ := List.mem_map.mp hid'
    exact hkey (Part.key_eq_of_id_eq hpart hpart' heq.symm)

/-! ## Labels -/

theorem ChunkKind.colon_not_mem_word (kind : ChunkKind) : ':' ∉ kind.word.toList := by
  cases kind <;> decide

namespace Chunk

variable {chunk other : Chunk}

/-- Without colons in kinds and names, a label tells path, kind and name, whatever is in the
path. -/
theorem label_eq_iff_of_names (hkind : ':' ∉ chunk.kind.toList) (hname : ':' ∉ chunk.name.toList)
    (hkind' : ':' ∉ other.kind.toList) (hname' : ':' ∉ other.name.toList) :
    chunk.label = other.label ↔
      chunk.file.path = other.file.path ∧ chunk.kind = other.kind ∧ chunk.name = other.name := by
  rw [label, label, label_eq_iff hkind hname hkind' hname']

/-- In one file, without colons in kinds, a label tells kind and name, whatever is in the name. -/
theorem label_eq_iff_of_path (hpath : chunk.file.path = other.file.path)
    (hkind : ':' ∉ chunk.kind.toList) (hkind' : ':' ∉ other.kind.toList) :
    chunk.label = other.label ↔ chunk.kind = other.kind ∧ chunk.name = other.name := by
  constructor
  · intro h
    have hlist := congrArg String.toList h
    rw [label, label, toList_label, toList_label, hpath] at hlist
    obtain ⟨-, hlist⟩ := List.cons.inj (List.append_cancel_left hlist)
    obtain ⟨hkinds, hnames⟩ := Text.append_cons_inj_first hkind hkind' hlist
    exact ⟨String.toList_inj.mp hkinds, String.toList_inj.mp hnames⟩
  · rintro ⟨hkind, hname⟩
    rw [label, label, hpath, hkind, hname]

end Chunk

end CodeSearch
