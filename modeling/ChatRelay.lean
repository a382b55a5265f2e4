import ChatRelay.Main
import ChatRelay.Proofs.Desk
import ChatRelay.Rehearsal.Show
import ChatRelay.Rehearsal.Solo
import ChatRelay.Proofs.Desk.Projection
import ChatRelay.Proofs.Dialogue
import ChatRelay.Proofs.Job
import ChatRelay.Proofs.Queueing
import ChatRelay.Proofs.Aside
import ChatRelay.Proofs.Memory
import ChatRelay.Proofs.Reset
import ChatRelay.Proofs.Lines
import ChatRelay.Proofs.Opener
import ChatRelay.Proofs.Words
import ChatRelay.Proofs.Commands
import ChatRelay.Proofs.Heredoc
import ChatRelay.Proofs.Writing
import ChatRelay.Proofs.Play
import ChatRelay.Proofs.Verdict
import ChatRelay.Proofs.Notes
import ChatRelay.Proofs.Legible
import ChatRelay.Proofs.Exchange
import ChatRelay.Proofs.Turns
import ChatRelay.Proofs.Resuming
import ChatRelay.Proofs.Rehearsal
import ChatRelay.Proofs.Sessions
import ChatRelay.Proofs.Posting
import ChatRelay.Proofs.Containment
import ChatRelay.Proofs.Progress
import ChatRelay.Proofs.Abandoned
import ChatRelay.Proofs.Calls
import ChatRelay.Proofs.Doing
import ChatRelay.Proofs.Working
import ChatRelay.Proofs.Errand
import ChatRelay.Proofs.Places
import ChatRelay.Proofs.Deletion
import ChatRelay.Proofs.Gateway
import ChatRelay.Proofs.Channels
import ChatRelay.Proofs.Cutting
import ChatRelay.Proofs.Blank
import ChatRelay.Proofs.Files
import ChatRelay.Proofs.Path
import ChatRelay.Proofs.Saving
import ChatRelay.Proofs.Encoding
import ChatRelay.Proofs.Json
import ChatRelay.Proofs.Restart
import ChatRelay.Proofs.Way
import ChatRelay.Proofs.Fetching
import ChatRelay.Proofs.Lifetime
import ChatRelay.Proofs.Pages
import ChatRelay.Proofs.Slice
import ChatRelay.Proofs.World
import ChatRelay.Proofs.Streams
import ChatRelay.Proofs.Desk.Keeping
import ChatRelay.Proofs.NewOrResumed
import ChatRelay.Proofs.Parts
import ChatRelay.Proofs.WholeLines
import ChatRelay.Proofs.Patterns
import ChatRelay.Proofs.DataModel
import ChatRelay.Proofs.BlankArguments
import ChatRelay.Proofs.ArgumentOrder
import ChatRelay.Proofs.Boundary
import ChatRelay.Proofs.EmojiList
import ChatRelay.Proofs.ReadingPrompts
import ChatRelay.Proofs.Obstacles
import ChatRelay.Proofs.Persistence
import ChatRelay.Proofs.Shown
import ChatRelay.Proofs.Acceptance
import ChatRelay.Proofs.Addressing
import ChatRelay.Proofs.WholeVerbs
import ChatRelay.Proofs.Accumulator
