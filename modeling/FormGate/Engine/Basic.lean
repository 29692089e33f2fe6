import FormGate.Trigger.Handler

/-!
# The engine

An engine validates the forms of one page under one configuration. It keeps the page, the
diagnostics and its phase from one request to the next.
-/

namespace FormGate

/-- What a page is validated by, and the page with all that happened on it. -/
structure Engine where
  setup : Setup
  world : World

namespace Engine

/-- An engine for a page. The configuration limits the diagnostics that it keeps. -/
def create (page : Option Document) (config : Config := {}) (catalog : Catalog := .default) :
    Except Failure Engine :=
  (Collector.create "engine" config.maxRetained).map fun collector =>
    ⟨⟨config, catalog⟩, { page, collector }⟩

/-- An engine for one part of the work only, with the built-in rules and a collector of the usual
size under the name of a command. -/
def standalone (command : String) (page : Option Document) (config : Config := {}) : Engine where
  setup := { config }
  world := { page, collector := { command, limit := Collector.defaultLimit } }

/-- Runs a pass with which nothing interferes. -/
def run {α : Type} (x : Pass α) (g : Engine) : Except Failure α × Engine :=
  let (r, world) := (World.runPass World.undisturbed x).run g.world
  (r, { g with world })

/-- Handles a trigger into which interventions may come. -/
def handle (t : Trigger) (interventions : List Intervention) (g : Engine) : Handled × Engine :=
  let (h, world) := (g.setup.handleWith interventions t).run g.world
  (h, { g with world })

/-- Reads a rule text and reports the tokens that are dropped. -/
def readRules (raw : String) (field : Option String) (g : Engine) : List Rule × Engine :=
  (g.setup.catalog.rules raw,
    { g with world.collector := g.setup.catalog.reportFaults raw field g.world.collector })

end Engine

end FormGate
