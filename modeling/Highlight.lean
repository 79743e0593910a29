import Highlight.Unicode.Word
import Highlight.Unicode.Digit
import Highlight.Unicode.Space
import Highlight.Unicode.Numbered
import Highlight.Unicode.Cells
import Highlight.Unicode.Cased
import Highlight.Unicode.Case
import Highlight.Unicode.Category
import Highlight.Unicode.Script
import Highlight.Unicode.Property
import Highlight.Unicode.Age
import Highlight.Unicode.Break
import Highlight.Text.Offset
import Highlight.Text.Lines
import Highlight.Text.Cursor
import Highlight.Pattern.CharSet
import Highlight.Pattern.Form
import Highlight.Pattern.StateSet
import Highlight.Pattern.Basic
import Highlight.Pattern.Reading
import Highlight.Pattern.Simplify
import Highlight.Pattern.Encoding
import Highlight.Pattern.Memory
import Highlight.Pattern.Error
import Highlight.Pattern.Item
import Highlight.Pattern.Flags
import Highlight.Pattern.Property
import Highlight.Pattern.Escape
import Highlight.Pattern.Class
import Highlight.Pattern.Items
import Highlight.Pattern.Parse
import Highlight.Token.Kind
import Highlight.Token.Basic
import Highlight.Style
import Highlight.Rule
import Highlight.Text.FileName
import Highlight.Grammar.Tokenize
import Highlight.Registry
import Highlight.Builtin.Registry
import Highlight.Theme
import Highlight.Language
import Highlight.Text.Width
import Highlight.Text.Quoted
import Highlight.Terminal.Document
import Highlight.Toml.Document
import Highlight.Config
import Highlight.Editor.Watch
import Highlight.Main
import Highlight.Proofs.Partition
import Highlight.Proofs.ScriptBlock
import Highlight.Proofs.WellFormed
import Highlight.Proofs.Bounds
import Highlight.Proofs.Embedding
import Highlight.Proofs.Visit
import Highlight.Proofs.Session
import Highlight.Proofs.Watch
import Highlight.Proofs.Assignment
import Highlight.Proofs.Lines
import Highlight.Proofs.Threading
import Highlight.Proofs.Screen
import Highlight.Proofs.Rendering
import Highlight.Proofs.Program
import Highlight.Proofs.Store
import Highlight.Proofs.Edges
import Highlight.Proofs.Pieces
import Highlight.Proofs.Words
import Highlight.Proofs.Numerals
import Highlight.Proofs.Comments
import Highlight.Proofs.Heads
import Highlight.Proofs.Dump
import Highlight.Proofs.Openings
import Highlight.Proofs.Arguments
import Highlight.Proofs.Dependence
import Highlight.Proofs.LineEnds
import Highlight.Proofs.Building
import Highlight.Proofs.Registration
import Highlight.Proofs.Queries
import Highlight.Proofs.Tables
import Highlight.Proofs.Settings
import Highlight.Proofs.Written
import Highlight.Proofs.Sets
