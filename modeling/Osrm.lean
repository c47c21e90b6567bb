import Osrm.Engine.QueryGraph
import Osrm.Engine.QueryHeap
import Osrm.Engine.RoutingAlgorithms.ManyToMany
import Osrm.Engine.RoutingAlgorithms.ManyToManyIndexing
import Osrm.Engine.RoutingAlgorithms.SearchRun
import Osrm.Engine.RoutingAlgorithms.ManyToManyRoutes
import Osrm.Extractor.TurnLanes
import Osrm.Engine.Datafacade.SharedDataFacade
import Osrm.Extractor.PrepareEdges
import Osrm.Extractor.PrepareRestrictions
import Osrm.Extractor.EdgeOrder
import Osrm.Engine.Guidance.RouteStep
import Osrm.Engine.Guidance.PostProcessing
import Osrm.Engine.Guidance.Leg
import Osrm.Engine.Guidance.Reads
import Osrm.Engine.Guidance.Absorb
import Osrm.Engine.Guidance.LegGeometry
import Osrm.Engine.Guidance.TrimShortSegments
import Osrm.Engine.RoutingAlgorithms.SettleOrder
import Osrm.Engine.RoutingAlgorithms.ManyToManyDiagonal
import Osrm.Engine.RoutingAlgorithms.SettleKeys
import Osrm.Engine.RoutingAlgorithms.ManyToManyLeast
import Osrm.Extractor.PrepareNodes
import Osrm.Extractor.RenumberEdges
import Osrm.Engine.Guidance.Roundabout
import Osrm.Engine.Guidance.RoundaboutStart
import Osrm.Engine.Guidance.RoundaboutLegs
import Osrm.Engine.Guidance.CollapseTurns
import Osrm.Engine.Guidance.Passes
import Osrm.Engine.RunQuery
import Osrm.Extractor.NameTable
import Osrm.Extractor.IntersectionClasses
import Osrm.Extractor.EdgeBasedNodes
import Osrm.Engine.Datafacade.Geometry
import Osrm.Engine.Guidance.RelativeLocations
