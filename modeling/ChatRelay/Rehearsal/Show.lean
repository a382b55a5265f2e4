import ChatRelay.Rehearsal.Scene
import ChatRelay.Rehearsal.Stage
import ChatRelay.Startup

/-!
# Rehearsing the whole relay

The relay is started on the disk of a scene and connected to its Discord. What happens there is
played event by event; what the connection does with an event may fail, and then the rest of it
is not done.
-/

namespace ChatRelay.Rehearsal

/-- The stage of the whole relay. -/
abbrev Show := Stage Platform.service Scene

namespace Show

/-- The relay and its world as partners. -/
def troupe (s : Claude.Settings) : Troupe Platform.service Scene :=
  ⟨Platform.reply s, Scene.partner⟩

/-- The entry of the record for the answer to a command. -/
def response (text : String) (hidden : Bool) : List Json :=
  [.text "respond", .text text, .bool hidden]

/-- Starts the relay on the disk of a scene. The lines of the log come with it. -/
def start (scene : Scene) (given environment : Option String) :
    Except Failure (Config × Show) × List String :=
  let played := Backstage.diskPartner.play 0 scene.back (Relay.start given environment)
  (played.1.map fun relay =>
    (relay.config,
      { engine := relay.engine
        world := { scene with back := { played.2.1 with vault := .kept relay.store } } }),
    played.2.2)

/-- The connection of the relay to the Discord of a scene. -/
def client (s : Scene) (operator : String) : Discord.Client :=
  { operator, ownUser := s.guild.ownUser, known := s.guild.knownChannels }

/-- Does what the connection does with an event. -/
def carryOut (settings : Claude.Settings) (s : Show) :
    List Discord.Action → Except Failure Unit × Show
  | [] => (.ok (), s)
  | .receive item :: rest => carryOut settings (s.receive item).1 rest
  | .reset channel :: rest =>
    match s.reset (troupe settings) channel with
    | (.error failure, s) => (.error failure, s)
    | (.ok (), s) => carryOut settings s rest
  | .respond text hidden :: rest =>
    carryOut settings { s with world := s.world.record (response text hidden) } rest
  | .log line :: rest => carryOut settings { s with log := s.log ++ [line] } rest

/-- Something happens on Discord. -/
def happen (settings : Claude.Settings) (operator : String) (s : Show) (e : Discord.Event) :
    Except Failure Unit × Show :=
  s.carryOut settings ((client s.world operator).actions e)

end Show

end ChatRelay.Rehearsal
