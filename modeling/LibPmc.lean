import LibPmc.Build
import LibPmc.Parse
import LibPmc.Bounds
import LibPmc.Walk
import LibPmc.Receive
import LibPmc.Safety
import LibPmc.Signaling
import LibPmc.History
import LibPmc.Session
import LibPmc.Emit
import LibPmc.Send
import LibPmc.RoundTrip
import LibPmc.Lengths
import LibPmc.Room
import LibPmc.Cfg
import LibPmc.Lookup
import LibPmc.Os
import LibPmc.Sock
import LibPmc.SockLife
import LibPmc.Threshold
import LibPmc.Transport
import LibPmc.Planned
import LibPmc.SigFields
import LibPmc.Wire.Echo
import LibPmc.Echo
import LibPmc.Wire.Table
import LibPmc.Tables
import LibPmc.Poll
import LibPmc.Scan
import LibPmc.CfgLine
import LibPmc.CfgNumber
import LibPmc.PortId
import LibPmc.Address
import LibPmc.Keys
import LibPmc.Quote
import LibPmc.Frame
import LibPmc.Pairs
import LibPmc.Command
import LibPmc.LineEnd
import LibPmc.Json.Grammar
import LibPmc.Json.Layout
import LibPmc.Json.Leaves
import LibPmc.Json.Printf
import LibPmc.SignedField
import LibPmc.JsonProc
import LibPmc.ValidJson
import LibPmc.JsonLists
import LibPmc.Leak
import LibPmc.Interface
import LibPmc.CfgRange
import LibPmc.Comments
import LibPmc.Bin
import LibPmc.Start
import LibPmc.Int48
import LibPmc.Sizes
import LibPmc.FindId
import LibPmc.Json.Unique
import LibPmc.JsonTree
import LibPmc.HexText
import LibPmc.Dump
import LibPmc.DumpBack
import LibPmc.ReadBack
import LibPmc.Wire.Fresh
import LibPmc.Fresh
import LibPmc.Machine.Run
import LibPmc.Machine.Net
import LibPmc.Pmc
import LibPmc.Requests
import LibPmc.Numbered
import LibPmc.Wire.Agree
import LibPmc.Alike
import LibPmc.Foreign
import LibPmc.Held
import LibPmc.Typed
import LibPmc.Report
import LibPmc.Launch
