import GpuTelemetry.Roster.Scrape

/-!
# Sessions with a roster

What a caller may ask of a roster, one request after the other. Only scraping and collecting
change the roster, and only through the states of its collectors.
-/

namespace GpuTelemetry.Roster

/-- A request to a roster. -/
inductive Request (τ : Type) where
  /-- The names of the collectors. -/
  | names
  /-- The declared metrics. -/
  | descriptors
  /-- A scrape into a sink. -/
  | scrape (sink : τ) (clock : Clock)
  /-- A scrape for the serving side. -/
  | collect (clock : Clock)

/-- The answer to a request. -/
inductive Response (τ : Type) where
  /-- The names of the collectors, and whether there are none. -/
  | names (names : List String) (isEmpty : Bool)
  /-- The declared metrics. -/
  | descriptors (descriptors : List Descriptor)
  /-- The result of a scrape, with the sink and the log. -/
  | scraped (performed : Performed τ (Except Failure Unit))
  /-- What is served, with the log. -/
  | collected (families : List Family) (log : List Event)

variable {κ τ : Type} [Collector κ] [Sink τ]

/-- Answers one request. -/
def answer (roster : Roster κ) : Request τ → Response τ × Roster κ
  | .names => (.names roster.names roster.isEmpty, roster)
  | .descriptors => (.descriptors roster.descriptors, roster)
  | .scrape sink clock =>
    let performed := (roster.scrape clock).perform sink
    (.scraped ⟨performed.result.1, performed.sink, performed.log⟩, performed.result.2)
  | .collect clock =>
    let collection := roster.collect clock
    (.collected collection.families collection.log, collection.roster)

/-- Answers requests in order. -/
def answerAll (roster : Roster κ) : List (Request τ) → List (Response τ) × Roster κ
  | [] => ([], roster)
  | request :: rest =>
    let (response, roster) := roster.answer request
    let (responses, roster) := roster.answerAll rest
    (response :: responses, roster)

end GpuTelemetry.Roster
