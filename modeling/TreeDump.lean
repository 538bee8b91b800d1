import TreeDump.Main
import TreeDump.Registration.Registry
import TreeDump.Proofs.Walk.Tree
import TreeDump.Proofs.Walk.Enumeration
import TreeDump.Proofs.Walk.Modes
import TreeDump.Proofs.Walk.Losses
import TreeDump.Proofs.Walk.Reordering
import TreeDump.Proofs.Walk.Narrowing
import TreeDump.Proofs.Walk.Account
import TreeDump.Proofs.Walk.Termination
import TreeDump.Proofs.Artifact.Outline
import TreeDump.Proofs.Artifact.Dump
import TreeDump.Proofs.Artifact.Sections
import TreeDump.Proofs.Registration.Registry
import TreeDump.Proofs.Registration.Failures
import TreeDump.Proofs.Registration.Lines
import TreeDump.Proofs.Cleanup
import TreeDump.Proofs.FileSystem.Leads
import TreeDump.Proofs.Path.Plain
import TreeDump.Proofs.Path.SearchList
import TreeDump.Proofs.FileSystem.Keeps
import TreeDump.Proofs.FileSystem.Parents
import TreeDump.Proofs.Configuration.Document
import TreeDump.Proofs.Configuration.Reload
import TreeDump.Proofs.Configuration.Outcome
import TreeDump.Proofs.Run.Repeated
import TreeDump.Proofs.Run.Delivered
import TreeDump.Proofs.Json.Lists
import TreeDump.Proofs.Encoding.Raw
import TreeDump.Proofs.Encoding.Utf8
import TreeDump.Proofs.Encoding.Choice
import TreeDump.Proofs.Encoding.Utf16
import TreeDump.Proofs.Encoding.SingleByte
import TreeDump.Proofs.Reading
import TreeDump.Proofs.Text.LowerCase
import TreeDump.Proofs.Text.Words
import TreeDump.Proofs.Options.Phrases
import TreeDump.Proofs.Configuration.Accepted
import TreeDump.Proofs.Configuration.Loaded
