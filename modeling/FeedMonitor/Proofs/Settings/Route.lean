import FeedMonitor.Proofs.Web.Appended
import FeedMonitor.Settings.Check

/-!
Where the batches of settings that can be used are posted.

An endpoint is checked as a URL, but the path of batches is appended to its text. So batches reach
that path only if the endpoint has neither a query nor a fragment; else they are posted to the path
of the endpoint itself. An endpoint that ends in blanks right after its server gives no URL at all.
-/

namespace FeedMonitor.Settings

open Web

variable {settings : Settings} {text : String}

theorem batchPath_route : Url.Route batchPath.toList ["logs".toList, "batch".toList] where
  filled := by decide
  joined := by decide
  segmented := by decide
  named := by simp only [Url.Named]; decide
  plain := by simp [batchPath]
  inPath := by decide
  inQuery := by decide
  inFragment := by decide

theorem Usable.exists_url (usable : settings.Usable) (given : settings.endpoint = some text) :
    ∃ url, Url.parse text = .ok url ∧ url.scheme ∈ ["http", "https"] := by
  have sound := usable.endpoint
  rw [endpointFault?, given] at sound
  cases read : Url.parse text with
  | error cause => simp [read] at sound
  | ok url => exact ⟨url, rfl, by simpa [read, or_iff_not_imp_left] using sound⟩

/-- A text is what is left without its last slashes, and these. -/
theorem exists_slashes (text : String) :
    ∃ slashes, (∀ c ∈ slashes, c = '/') ∧
      text.toList = (withoutSlashes text).toList ++ slashes := by
  refine ⟨(text.toList.reverse.takeWhile (· == '/')).reverse, fun c member => ?_, ?_⟩
  · simpa using List.mem_takeWhile_imp (List.mem_reverse.mp member)
  · rw [withoutSlashes, String.toList_ofList, ← List.reverse_append,
      List.takeWhile_append_dropWhile, List.reverse_reverse]

/-- Batches are posted to the server of the endpoint, at a path that ends with the path of batches if
the endpoint has neither a query nor a fragment, unless the text of the endpoint is frayed. -/
theorem batchUrl_lands (usable : settings.Usable) (given : settings.endpoint = some text) :
    ∃ url batch, Url.parse text = .ok url ∧ settings.batchUrl? = some batch ∧
      (Url.Frayed text → ∃ fault, Url.parse batch = .error fault) ∧
        (¬Url.Frayed text → ∃ posted, Url.parse batch = .ok posted ∧ url.SameSite posted ∧
          url.Lands batchPath.toList posted) := by
  obtain ⟨url, read, web⟩ := usable.exists_url given
  obtain ⟨slashes, only, whole⟩ := exists_slashes text
  have posted : settings.batchUrl? = some (withoutSlashes text ++ batchPath) := by
    rw [batchUrl?, given, Option.map_some]
  obtain ⟨refused, reached⟩ := Url.parse_appended batchPath_route only whole
    String.toList_append read web
  exact ⟨url, _, read, posted, refused, reached⟩

theorem batchUrl_lands_nested :
    let settings : Settings :=
      { (default : Settings) with endpoint := some "http://localhost:8000/api/" }
    settings.Usable ∧ ¬Url.Frayed "http://localhost:8000/api/" ∧
      ∃ batch posted, settings.batchUrl? = some batch ∧ Url.parse batch = .ok posted ∧
        batchPath.toList <:+ posted.path.toList := by
  intro settings
  have usable : settings.Usable := usable_of_fault? rfl
  have sound : ¬Url.Frayed "http://localhost:8000/api/" := fun frayed => frayed.2 rfl
  obtain ⟨url, batch, read, given, -, reached⟩ := batchUrl_lands usable rfl
  obtain ⟨posted, accepted, -, lands⟩ := reached sound
  obtain rfl := Except.ok.inj read
  exact ⟨usable, sound, batch, posted, given, accepted, lands.1⟩

/-- The query of an endpoint takes in the path of batches, and they are posted to another path. -/
theorem batchUrl_in_query :
    let settings : Settings :=
      { (default : Settings) with endpoint := some "http://localhost:8000/api?team=7" }
    settings.Usable ∧ ∃ batch posted, settings.batchUrl? = some batch ∧
      Url.parse batch = .ok posted ∧ ¬batchPath.toList <:+ posted.path.toList ∧
        posted.query = some "team=7/logs/batch" :=
  ⟨usable_of_fault? rfl, _, _, rfl, rfl, by decide, rfl⟩

end FeedMonitor.Settings
