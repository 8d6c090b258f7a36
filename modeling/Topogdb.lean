import Topogdb.Aggregation
import Topogdb.Gcjobs.Proxy
import Topogdb.Geocomponents.Concurrency
import Topogdb.Geocomponents.Dispatch
import Topogdb.Gcjobs.Consumer
import Topogdb.Lib.KeyedMerge
import Topogdb.Gcimport.SplitUploads
import Topogdb.Gcapi.App
import Topogdb.Gcapi.Authorization
import Topogdb.Gcmapview.Editing
import Topogdb.Gcmapview.Heights
import Topogdb.Geocomponents.Patch
import Topogdb.Geocomponents.DirectFootprints
import Topogdb.Geocomponents.Build
import Topogdb.Geocomponents.Statements
import Topogdb.Geocomponents.GeneratedNames
import Topogdb.Lib.Shapes
import Topogdb.Geocomponents.NestedObjects
import Topogdb.Geocomponents.Conformance
import Topogdb.Geocomponents.StoredRows
import Topogdb.Geocomponents.NestedValidation
import Topogdb.Lib.Relations
import Topogdb.Geocomponents.Read
import Topogdb.Geocomponents.Listing
import Topogdb.Geocomponents.Written
import Topogdb.Geocomponents.OutwardIdentifiers
import Topogdb.Geocomponents.ManagedPaths
import Topogdb.Geocomponents.DotPaths
import Topogdb.Geocomponents.Upsert
import Topogdb.Geocomponents.Membership
import Topogdb.Geocomponents.ApplyTables
import Topogdb.Gcimport.Collisions
import Topogdb.Gcimport.Duplicates
import Topogdb.Gcimport.Batches
import Topogdb.Gcimport.ImportedIds
import Topogdb.Batching
import Topogdb.Gcjobs.JobListing
import Topogdb.Gcimport.Routing
import Topogdb.Gcmapview.Paging
import Topogdb.Gcmapview.Dragging
import Topogdb.Gcimport.SosiLines
import Topogdb.Geocomponents.FunctionNames
import Topogdb.Geocomponents.Convert
import Topogdb.Geocomponents.ConvertedFields
import Topogdb.Geocomponents.Converted
import Topogdb.Geocomponents.ReadReplace
import Topogdb.Geocomponents.DirectWrites
import Topogdb.Geocomponents.RowWrites
import Topogdb.Geocomponents.CallWrites
import Topogdb.Geocomponents.CallSchedules
import Topogdb.Geocomponents.Api
import Topogdb.Geocomponents.ApiWrites
import Topogdb.Geocomponents.ApiGuards
import Topogdb.Gcmapview.Elevated
import Topogdb.Gcmapview.TerrainSamples
import Topogdb.Gcmapview.ElevatedSources
import Topogdb.ImportStream
import Topogdb.ImportedTables
import Topogdb.Gcjobs.EventListener
import Topogdb.Geocomponents.Touches
import Topogdb.Geocomponents.TransactionReads
