import PolicyHeader.Scope.Json
import PolicyHeader.Session
import PolicyHeader.Settings.File
import PolicyHeader.Settings.Json
import PolicyHeader.Proofs.Scope.Rereading
import PolicyHeader.Proofs.Scope.Families
import PolicyHeader.Proofs.Scope.Policies
import PolicyHeader.Proofs.Messages
import PolicyHeader.Proofs.Scope.Faults
import PolicyHeader.Proofs.Scope.Concatenation
import PolicyHeader.Proofs.Header.Rendering
import PolicyHeader.Proofs.Header.Layout
import PolicyHeader.Proofs.Scope.Requirements
import PolicyHeader.Proofs.Scope.Grouping
import PolicyHeader.Proofs.Scope.LastWord
import PolicyHeader.Proofs.Json.Records
import PolicyHeader.Proofs.Scope.Json
import PolicyHeader.Proofs.LabelPolicy
import PolicyHeader.Proofs.Settings.Document
import PolicyHeader.Proofs.Settings.Readers
import PolicyHeader.Proofs.ErrorMessages
import PolicyHeader.Proofs.Header.FirstLine
import PolicyHeader.Proofs.Scope.Normalization
