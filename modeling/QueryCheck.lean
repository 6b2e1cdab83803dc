import QueryCheck.Main
import QueryCheck.Proofs.Recognition
import QueryCheck.Proofs.Scanning
import QueryCheck.Proofs.Acceptance
import QueryCheck.Proofs.Places
import QueryCheck.Proofs.Breaks
import QueryCheck.Proofs.Agreement
import QueryCheck.Proofs.StringLiteral
import QueryCheck.Proofs.Layout
import QueryCheck.Proofs.Course
import QueryCheck.Proofs.Repetition
import QueryCheck.Proofs.JsonDump
import QueryCheck.Proofs.CommandAgreement
import QueryCheck.Proofs.LetterCase
import QueryCheck.Proofs.Recasing
import QueryCheck.Proofs.Faults
import QueryCheck.Proofs.Sources
import QueryCheck.Proofs.Encoding
import QueryCheck.Proofs.PlainListing
import QueryCheck.Proofs.Expectations
import QueryCheck.Proofs.ReservedSpellings
import QueryCheck.Proofs.LiteralValue
import QueryCheck.Proofs.FewestDigits
import QueryCheck.Proofs.NumberTexts
import QueryCheck.Proofs.Progress
