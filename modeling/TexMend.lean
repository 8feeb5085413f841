import TexMend.Session
import TexMend.Settings.Load
import TexMend.Service.Setup
import TexMend.Service.OpenRouter
import TexMend.Service.Anthropic
import TexMend.Journal
import TexMend.Proofs.Text.Occurrence
import TexMend.Proofs.Secret.Takes
import TexMend.Proofs.Secret.Masking
import TexMend.Proofs.Secret.StandardRedactor
import TexMend.Proofs.Log.Unwrapping
import TexMend.Proofs.Log.Site
import TexMend.Proofs.Log.Joining
import TexMend.Proofs.Log.Wrapping
import TexMend.Proofs.Repair.Patch
import TexMend.Proofs.Repair.Sweep
import TexMend.Proofs.Repair.SharedLine
import TexMend.Proofs.Repair.Layout
import TexMend.Proofs.Repair.Rewriting
import TexMend.Proofs.Repair.Place
import TexMend.Proofs.Repair.Proposal
import TexMend.Proofs.Repair.Standing
import TexMend.Proofs.Repair.Fixes
import TexMend.Proofs.Repair.Survival
import TexMend.Proofs.Repair.Reach
import TexMend.Proofs.Repair.Surplus
import TexMend.Proofs.Log.Identity
import TexMend.Proofs.Log.LineForm
import TexMend.Proofs.Log.OpenFile
import TexMend.Proofs.Log.Grammar
import TexMend.Proofs.Log.Numbering
import TexMend.Proofs.Text.Numeral
import TexMend.Proofs.Text.Stretch
import TexMend.Proofs.Log.CommandReport
import TexMend.Proofs.Diagnosis.Lookup
import TexMend.Proofs.Assist.Consultation
import TexMend.Proofs.Diagnosis.Request
import TexMend.Proofs.Diagnosis.Keeping
import TexMend.Proofs.Log.Quotation
import TexMend.Proofs.Service.Attempt
import TexMend.Proofs.Service.Completion
import TexMend.Proofs.Repair.MathMode
import TexMend.Proofs.Service.Backoff
import TexMend.Proofs.Repair.MathRounds
import TexMend.Proofs.Secret.Ends
import TexMend.Proofs.Secret.Clear
import TexMend.Proofs.Journal.JsonLine
import TexMend.Proofs.Journal.ConsoleLine
import TexMend.Proofs.Journal.Secrecy
import TexMend.Proofs.Repair.Nesting
import TexMend.Proofs.Repair.Balance
import TexMend.Proofs.Repair.Preamble
import TexMend.Proofs.Repair.Correction
import TexMend.Proofs.Assist.Fences
import TexMend.Proofs.Repair.Neighbour
import TexMend.Proofs.Repair.Progress
import TexMend.Proofs.Text.Phrase
import TexMend.Proofs.Assist.Unquoting
import TexMend.Proofs.Assist.Framing
import TexMend.Proofs.Repair.Surroundings
import TexMend.Proofs.Repair.OneByOne
import TexMend.Proofs.Repair.Effect
import TexMend.Proofs.Settings.Substitution
import TexMend.Proofs.Journal.MaskedValue
import TexMend.Proofs.Assist.Window
import TexMend.Proofs.Settings.Rereading
