import ImportWeights.Fetch.Fetcher
import ImportWeights.Proofs.Files.Names
import ImportWeights.Proofs.Repository.Segment
import ImportWeights.Proofs.Text.Encoding

/-! The folder of an accepted URL. No slash gets into a folder name, whatever the URL and the
policy, and those that are no name of a directory are refused; so a folder is one proper name
below the staging directory. -/

namespace ImportWeights.Repository

open ImportWeights.Files

theorem slash_not_mem_hexByte (b : UInt8) : '/' ∉ Text.hexByte false b := by
  have digit : ∀ n < 16, '/' ≠ Text.hexDigit false n := by decide
  have small := b.toNat_lt
  simpa [Text.hexByte] using ⟨digit _ (by omega), digit _ (by omega)⟩

theorem slash_not_mem_urlDigest (url : String) : '/' ∉ (urlDigest url).toList := by
  intro h
  rw [urlDigest, String.toList_ofList] at h
  obtain ⟨b, -, hb⟩ := List.mem_flatMap.mp (List.mem_of_mem_take h)
  exact slash_not_mem_hexByte b hb

theorem slash_not_mem_folderName (naming : FolderNaming) (url : String) :
    '/' ∉ (folderName naming url).toList := by
  have segment : '/' ∉ (repositorySegment url).toList := by
    rw [repositorySegment, String.toList_ofList]
    exact fun h => (not_separator_of_mem_lastPart h).1 rfl
  cases naming with
  | segment => exact segment
  | hashed => simp [folderName, segment, slash_not_mem_urlDigest]

/-- A folder name that stands for one directory below any other. -/
structure PlainFolder (folder : String) : Prop where
  ne_empty : folder ≠ ""
  no_slash : '/' ∉ folder.toList
  ne_current : folder ≠ "."
  ne_parent : folder ≠ ".."

theorem PlainFolder.properName {folder : String} (h : PlainFolder folder) :
    ProperName (Path.ofString folder).bytes where
  ne_nil bytes := h.ne_empty (Text.Utf8.ofString_injective (bytes.trans (by decide +kernel)))
  whole bytes := by
    obtain ⟨c, hc, code⟩ := (Text.Utf8.mem_ofString (by decide)).mp bytes
    obtain rfl : c = '/' := Char.toNat_inj.mp code
    exact h.no_slash hc
  ne_current bytes := h.ne_current (Text.Utf8.ofString_injective (bytes.trans (by decide +kernel)))
  ne_parent bytes := h.ne_parent (Text.Utf8.ofString_injective (bytes.trans (by decide +kernel)))

end ImportWeights.Repository

namespace ImportWeights.Fetch

open ImportWeights.Repository

theorem FetchConfig.judge_plain {c : FetchConfig} {url folder : String}
    (h : c.judge url = .ok folder) : PlainFolder folder := by
  unfold judge at h
  split at h
  · cases h
  · dsimp only at h
    split at h
    · cases h
    · rename_i named
      cases h
      simp only [isFolderless, Bool.or_eq_true, decide_eq_true_eq, not_or] at named
      exact ⟨named.1.1, slash_not_mem_folderName _ _, named.1.2, named.2⟩

end ImportWeights.Fetch
