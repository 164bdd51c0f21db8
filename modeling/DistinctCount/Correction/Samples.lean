namespace DistinctCount.Correction

-- A raw estimate that was measured, and by how much it was too high on average.
structure Sample where
  estimate : Float
  bias : Float

def samples10 : Array Sample := #[
    ⟨738.1256,737.1256⟩, ⟨750.4234,724.4234⟩, ⟨763.1064,711.1064⟩, ⟨775.4732,698.4732⟩,
    ⟨788.4636,685.4636⟩, ⟨801.0644,673.0644⟩, ⟨814.488,660.488⟩, ⟨827.9654,647.9654⟩,
    ⟨841.0832,636.0832⟩, ⟨854.7864,623.7864⟩, ⟨868.1992,612.1992⟩, ⟨882.2176,600.2176⟩,
    ⟨896.5228,588.5228⟩, ⟨910.1716,577.1716⟩, ⟨924.7752,565.7752⟩, ⟨938.899,554.899⟩,
    ⟨953.6126,543.6126⟩, ⟨968.6492,532.6492⟩, ⟨982.9474,521.9474⟩, ⟨998.5214,511.5214⟩,
    ⟨1013.1064,501.1064⟩, ⟨1028.6364,490.6364⟩, ⟨1044.2468,480.2468⟩, ⟨1059.4588,470.4588⟩,
    ⟨1075.3832,460.3832⟩, ⟨1091.0584,451.0584⟩, ⟨1106.8606,440.8606⟩, ⟨1123.3868,431.3868⟩,
    ⟨1139.5062,422.5062⟩, ⟨1156.1862,413.1862⟩, ⟨1172.463,404.463⟩, ⟨1189.339,395.339⟩,
    ⟨1206.1936,386.1936⟩, ⟨1223.1292,378.1292⟩, ⟨1240.1854,369.1854⟩, ⟨1257.2908,361.2908⟩,
    ⟨1275.3324,353.3324⟩, ⟨1292.8518,344.8518⟩, ⟨1310.5204,337.5204⟩, ⟨1328.4854,329.4854⟩,
    ⟨1345.9318,321.9318⟩, ⟨1364.552,314.552⟩, ⟨1381.4658,306.4658⟩, ⟨1400.4256,299.4256⟩,
    ⟨1419.849,292.849⟩, ⟨1438.152,286.152⟩, ⟨1456.8956,278.8956⟩, ⟨1474.8792,271.8792⟩,
    ⟨1494.118,265.118⟩, ⟨1513.62,258.62⟩, ⟨1532.5132,252.5132⟩, ⟨1551.9322,245.9322⟩,
    ⟨1570.7726,239.7726⟩, ⟨1590.6086,233.6086⟩, ⟨1610.5332,227.5332⟩, ⟨1630.5918,222.5918⟩,
    ⟨1650.4294,216.4294⟩, ⟨1669.7662,210.7662⟩, ⟨1690.4106,205.4106⟩, ⟨1710.7338,199.7338⟩,
    ⟨1730.9012,194.9012⟩, ⟨1750.4486,188.4486⟩, ⟨1770.1556,183.1556⟩, ⟨1791.6338,178.6338⟩,
    ⟨1812.7312,173.7312⟩, ⟨1833.6264,169.6264⟩, ⟨1853.9526,163.9526⟩, ⟨1874.8742,159.8742⟩,
    ⟨1896.8326,155.8326⟩, ⟨1918.1966,151.1966⟩, ⟨1939.5594,147.5594⟩, ⟨1961.07,143.07⟩,
    ⟨1983.037,140.037⟩, ⟨2003.1804,134.1804⟩, ⟨2026.071,131.071⟩, ⟨2047.4884,127.4884⟩,
    ⟨2070.0848,124.0848⟩, ⟨2091.2944,120.2944⟩, ⟨2114.333,117.333⟩, ⟨2135.9626,112.9626⟩,
    ⟨2158.2902,110.2902⟩, ⟨2181.0814,107.0814⟩, ⟨2202.0334,103.0334⟩, ⟨2224.4832,99.4832000000001⟩,
    ⟨2246.39,96.3899999999999⟩, ⟨2269.7202,93.7202000000002⟩, ⟨2292.1714,90.1714000000002⟩,
    ⟨2314.2358,87.2357999999999⟩, ⟨2338.9346,85.9346⟩, ⟨2360.891,82.8910000000001⟩,
    ⟨2384.0264,80.0264000000002⟩, ⟨2408.3834,78.3834000000002⟩, ⟨2430.1544,75.1543999999999⟩,
    ⟨2454.8684,73.8683999999998⟩, ⟨2476.9896,70.9895999999999⟩, ⟨2501.4368,69.4367999999999⟩,
    ⟨2522.8702,64.8701999999998⟩, ⟨2548.0408,65.0408000000002⟩, ⟨2570.6738,61.6738⟩,
    ⟨2593.5208,59.5207999999998⟩, ⟨2617.0158,57.0158000000001⟩, ⟨2640.2302,54.2302⟩,
    ⟨2664.0962,53.0962⟩, ⟨2687.4986,50.4985999999999⟩, ⟨2714.2588,52.2588000000001⟩,
    ⟨2735.3914,47.3914⟩, ⟨2759.6244,45.6244000000002⟩, ⟨2781.8378,42.8377999999998⟩,
    ⟨2808.0072,43.0072⟩, ⟨2830.6516,40.6516000000001⟩, ⟨2856.2454,40.2453999999998⟩,
    ⟨2877.2136,35.2136⟩, ⟨2903.4546,36.4546⟩, ⟨2926.785,33.7849999999999⟩,
    ⟨2951.2294,33.2294000000002⟩, ⟨2976.468,32.4679999999998⟩, ⟨3000.867,30.8670000000002⟩,
    ⟨3023.6508,28.6507999999999⟩, ⟨3049.91,28.9099999999999⟩, ⟨3073.5984,27.5983999999999⟩,
    ⟨3098.162,26.1619999999998⟩, ⟨3121.5564,24.5563999999999⟩, ⟨3146.2328,23.2328000000002⟩,
    ⟨3170.9484,21.9484000000002⟩, ⟨3195.5902,21.5902000000001⟩, ⟨3221.3346,21.3346000000001⟩,
    ⟨3242.7032,17.7031999999999⟩, ⟨3271.6112,20.6111999999998⟩, ⟨3296.5546,19.5545999999999⟩,
    ⟨3317.7376,15.7375999999999⟩, ⟨3345.072,17.0720000000001⟩, ⟨3369.9518,16.9517999999998⟩,
    ⟨3394.326,15.326⟩, ⟨3418.1818,13.1817999999998⟩, ⟨3444.6926,14.6925999999999⟩,
    ⟨3469.086,13.0859999999998⟩, ⟨3494.2754,13.2754⟩, ⟨3517.8698,10.8697999999999⟩,
    ⟨3544.248,11.248⟩, ⟨3565.3768,7.3768⟩, ⟨3588.7234,4.72339999999986⟩,
    ⟨3616.979,7.97899999999981⟩, ⟨3643.7504,8.7503999999999⟩, ⟨3668.6812,7.68119999999999⟩,
    ⟨3695.72,9.7199999999998⟩, ⟨3719.7392,7.73919999999998⟩, ⟨3742.6224,5.6224000000002⟩,
    ⟨3770.4456,7.44560000000001⟩, ⟨3795.6602,6.6601999999998⟩, ⟨3819.9058,5.9058⟩,
    ⟨3844.002,4.00199999999995⟩, ⟨3869.517,4.51699999999983⟩, ⟨3895.6824,4.68240000000014⟩,
    ⟨3920.8622,3.86220000000003⟩, ⟨3947.1364,5.13639999999987⟩, ⟨3973.985,5.98500000000013⟩,
    ⟨3995.4772,2.47719999999981⟩, ⟨4021.62,2.61999999999989⟩, ⟨4046.628,1.62800000000016⟩,
    ⟨4074.65,4.65000000000009⟩, ⟨4096.2256,0.225599999999758⟩, ⟨4121.831,0.831000000000131⟩,
    ⟨4146.6406,-0.359400000000278⟩, ⟨4173.276,1.27599999999984⟩, ⟨4195.0744,-2.92559999999958⟩,
    ⟨4223.9696,-0.0303999999996449⟩, ⟨4251.3708,2.37079999999969⟩, ⟨4272.9966,-2.0033999999996⟩,
    ⟨4300.8046,0.804600000000391⟩, ⟨4326.302,0.30199999999968⟩, ⟨4353.1248,1.1247999999996⟩,
    ⟨4374.312,-2.6880000000001⟩, ⟨4403.0322,0.0321999999996478⟩, ⟨4426.819,-1.18099999999959⟩,
    ⟨4450.0598,-3.9402⟩, ⟨4478.5206,-1.47940000000017⟩, ⟨4504.8116,-0.188400000000001⟩,
    ⟨4528.8928,-2.10720000000038⟩, ⟨4553.9584,-2.04159999999956⟩, ⟨4578.8712,-3.12880000000041⟩,
    ⟨4603.8384,-4.16160000000036⟩, ⟨4632.3872,-0.612799999999879⟩, ⟨4655.5128,-3.48719999999958⟩,
    ⟨4675.821,-8.17900000000009⟩, ⟨4704.6222,-5.37780000000021⟩, ⟨4731.9862,-4.01379999999972⟩,
    ⟨4755.4174,-5.58259999999973⟩, ⟨4781.2628,-5.73719999999958⟩, ⟨4804.332,-7.66799999999967⟩,
    ⟨4832.3048,-5.69520000000011⟩, ⟨4862.8752,-1.1247999999996⟩, ⟨4883.4148,-5.58520000000044⟩,
    ⟨4906.9544,-8.04560000000038⟩, ⟨4935.3516,-4.64840000000004⟩, ⟨4954.3532,-11.6468000000004⟩,
    ⟨4984.0248,-7.97519999999986⟩, ⟨5011.217,-5.78300000000036⟩, ⟨5035.3258,-7.67420000000038⟩,
    ⟨5057.3672,-10.6328000000003⟩, ⟨5084.1828,-9.81720000000041⟩]

def samples11 : Array Sample := #[
    ⟨1477.0,1476.0⟩, ⟨1501.6014,1449.6014⟩, ⟨1526.5802,1423.5802⟩, ⟨1551.7942,1397.7942⟩,
    ⟨1577.3042,1372.3042⟩, ⟨1603.2062,1347.2062⟩, ⟨1629.8402,1321.8402⟩, ⟨1656.2292,1297.2292⟩,
    ⟨1682.9462,1272.9462⟩, ⟨1709.9926,1248.9926⟩, ⟨1737.3026,1225.3026⟩, ⟨1765.4252,1201.4252⟩,
    ⟨1793.0578,1178.0578⟩, ⟨1821.6092,1155.6092⟩, ⟨1849.626,1132.626⟩, ⟨1878.5568,1110.5568⟩,
    ⟨1908.527,1088.527⟩, ⟨1937.5154,1066.5154⟩, ⟨1967.1874,1045.1874⟩, ⟨1997.3878,1024.3878⟩,
    ⟨2027.37,1003.37⟩, ⟨2058.1972,982.1972⟩, ⟨2089.5728,962.5728⟩, ⟨2120.1012,942.1012⟩,
    ⟨2151.9668,922.9668⟩, ⟨2183.292,903.292⟩, ⟨2216.0772,884.0772⟩, ⟨2247.8578,864.8578⟩,
    ⟨2280.6562,846.6562⟩, ⟨2313.041,828.041⟩, ⟨2345.714,809.714⟩, ⟨2380.3112,792.3112⟩,
    ⟨2414.1806,775.1806⟩, ⟨2447.9854,757.9854⟩, ⟨2481.656,740.656⟩, ⟨2516.346,724.346⟩,
    ⟨2551.5154,707.5154⟩, ⟨2586.8378,691.8378⟩, ⟨2621.7448,675.7448⟩, ⟨2656.6722,659.6722⟩,
    ⟨2693.5722,645.5722⟩, ⟨2729.1462,630.1462⟩, ⟨2765.4124,614.4124⟩, ⟨2802.8728,600.8728⟩,
    ⟨2838.898,585.898⟩, ⟨2876.408,572.408⟩, ⟨2913.4926,558.4926⟩, ⟨2951.4938,544.4938⟩,
    ⟨2989.6776,531.6776⟩, ⟨3026.282,517.282⟩, ⟨3065.7704,505.7704⟩, ⟨3104.1012,493.1012⟩,
    ⟨3143.7388,480.7388⟩, ⟨3181.6876,467.6876⟩, ⟨3221.1872,456.1872⟩, ⟨3261.5048,445.5048⟩,
    ⟨3300.0214,433.0214⟩, ⟨3339.806,420.806⟩, ⟨3381.409,411.409⟩, ⟨3421.4144,400.4144⟩,
    ⟨3461.4294,389.4294⟩, ⟨3502.2286,379.2286⟩, ⟨3544.651,369.651⟩, ⟨3586.6156,360.6156⟩,
    ⟨3627.337,350.337⟩, ⟨3670.083,342.083⟩, ⟨3711.1538,332.1538⟩, ⟨3753.5094,322.5094⟩,
    ⟨3797.01,315.01⟩, ⟨3838.6686,305.6686⟩, ⟨3882.1678,298.1678⟩, ⟨3922.8116,287.8116⟩,
    ⟨3967.9978,280.9978⟩, ⟨4009.9204,271.9204⟩, ⟨4054.3286,265.3286⟩, ⟨4097.5706,257.5706⟩,
    ⟨4140.6014,249.6014⟩, ⟨4185.544,242.544⟩, ⟨4229.5976,235.5976⟩, ⟨4274.583,229.583⟩,
    ⟨4316.9438,220.9438⟩, ⟨4361.672,214.672⟩, ⟨4406.2786,208.2786⟩, ⟨4451.8628,201.8628⟩,
    ⟨4496.1834,195.1834⟩, ⟨4543.505,191.505⟩, ⟨4589.1816,186.1816⟩, ⟨4632.5188,178.5188⟩,
    ⟨4678.2294,172.2294⟩, ⟨4724.8908,167.8908⟩, ⟨4769.0194,161.0194⟩, ⟨4817.052,158.052⟩,
    ⟨4861.4588,151.4588⟩, ⟨4910.1596,148.1596⟩, ⟨4956.4344,143.4344⟩, ⟨5002.5238,138.5238⟩,
    ⟨5048.13,133.13⟩, ⟨5093.6374,127.6374⟩, ⟨5142.8162,124.8162⟩, ⟨5187.7894,118.7894⟩,
    ⟨5237.3984,117.3984⟩, ⟨5285.6078,114.6078⟩, ⟨5331.0858,109.0858⟩, ⟨5379.1036,105.1036⟩,
    ⟨5428.6258,103.6258⟩, ⟨5474.6018,98.6018000000004⟩, ⟨5522.7618,95.7618000000002⟩,
    ⟨5571.5822,93.5821999999998⟩, ⟨5618.59,88.5900000000001⟩, ⟨5667.9992,86.9992000000002⟩,
    ⟨5714.88,82.8800000000001⟩, ⟨5763.454,80.4539999999997⟩, ⟨5808.6982,74.6981999999998⟩,
    ⟨5860.3644,74.3644000000004⟩, ⟨5910.2914,73.2914000000001⟩, ⟨5953.571,65.5709999999999⟩,
    ⟨6005.9232,66.9232000000002⟩, ⟨6055.1914,65.1913999999997⟩, ⟨6104.5882,62.5882000000001⟩,
    ⟨6154.5702,61.5702000000001⟩, ⟨6199.7036,55.7035999999998⟩, ⟨6251.1764,56.1764000000003⟩,
    ⟨6298.7596,52.7596000000003⟩, ⟨6350.0302,53.0302000000001⟩, ⟨6398.061,49.0609999999997⟩,
    ⟨6448.4694,48.4694⟩, ⟨6495.933,44.933⟩, ⟨6548.0474,46.0474000000004⟩,
    ⟨6597.7166,44.7165999999997⟩, ⟨6646.9416,41.9416000000001⟩, ⟨6695.9208,39.9207999999999⟩,
    ⟨6742.6328,35.6328000000003⟩, ⟨6793.5276,35.5276000000003⟩, ⟨6842.1934,33.1934000000001⟩,
    ⟨6894.2372,33.2371999999996⟩, ⟨6945.3864,33.3864000000003⟩, ⟨6996.9228,33.9228000000003⟩,
    ⟨7044.2372,30.2371999999996⟩, ⟨7094.1374,29.1373999999996⟩, ⟨7142.2272,25.2272000000003⟩,
    ⟨7192.2942,24.2942000000003⟩, ⟨7238.8338,19.8338000000003⟩, ⟨7288.9006,18.9005999999999⟩,
    ⟨7344.0908,23.0907999999999⟩, ⟨7394.8544,21.8544000000002⟩, ⟨7443.5176,19.5176000000001⟩,
    ⟨7490.4148,15.4147999999996⟩, ⟨7542.9314,16.9314000000004⟩, ⟨7595.6738,18.6737999999996⟩,
    ⟨7641.9878,12.9877999999999⟩, ⟨7694.3688,14.3688000000002⟩, ⟨7743.0448,12.0447999999997⟩,
    ⟨7797.522,15.5219999999999⟩, ⟨7845.53,12.5299999999997⟩, ⟨7899.594,14.5940000000001⟩,
    ⟨7950.3132,14.3131999999996⟩, ⟨7996.455,9.45499999999993⟩, ⟨8050.9442,12.9441999999999⟩,
    ⟨8092.9114,3.91139999999996⟩, ⟨8153.1374,13.1373999999996⟩, ⟨8197.4472,5.44720000000052⟩,
    ⟨8252.8278,9.82779999999912⟩, ⟨8301.8728,7.87279999999919⟩, ⟨8348.6776,3.67760000000089⟩,
    ⟨8401.4698,5.46980000000076⟩, ⟨8453.551,5.55099999999948⟩, ⟨8504.6598,5.65979999999945⟩,
    ⟨8553.8944,3.89439999999922⟩, ⟨8604.1276,3.1275999999998⟩, ⟨8657.6514,5.65140000000065⟩,
    ⟨8710.3062,6.3062000000009⟩, ⟨8758.908,3.90799999999945⟩, ⟨8807.8706,1.87060000000019⟩,
    ⟨8862.1702,5.17020000000048⟩, ⟨8910.4668,2.46680000000015⟩, ⟨8960.77,0.770000000000437⟩,
    ⟨9007.2766,-3.72340000000077⟩, ⟨9063.164,1.16400000000067⟩, ⟨9121.0534,8.05340000000069⟩,
    ⟨9164.1354,0.135399999999208⟩, ⟨9218.1594,2.15940000000046⟩, ⟨9267.767,0.766999999999825⟩,
    ⟨9319.0594,1.0594000000001⟩, ⟨9372.155,3.15500000000065⟩, ⟨9419.7126,-0.287399999999252⟩,
    ⟨9474.3722,2.37219999999979⟩, ⟨9520.1338,-2.86620000000039⟩, ⟨9572.368,-1.63199999999961⟩,
    ⟨9622.7702,-2.22979999999916⟩, ⟨9675.8448,-0.15519999999924⟩, ⟨9726.5396,-1.46039999999994⟩,
    ⟨9778.7378,-0.262199999999211⟩, ⟨9827.6554,-2.34460000000036⟩, ⟨9878.1922,-2.8078000000005⟩,
    ⟨9928.7782,-3.22179999999935⟩, ⟨9978.3984,-5.60159999999996⟩, ⟨10026.578,-8.42200000000048⟩,
    ⟨10076.5626,-9.43740000000071⟩, ⟨10137.1618,0.161799999999857⟩, ⟨10177.5244,-10.4755999999998⟩,
    ⟨10229.9176,-10.0823999999993⟩]

def samples12 : Array Sample := #[
    ⟨2954.0,2953.0⟩, ⟨3003.4782,2900.4782⟩, ⟨3053.3568,2848.3568⟩, ⟨3104.3666,2796.3666⟩,
    ⟨3155.324,2745.324⟩, ⟨3206.9598,2694.9598⟩, ⟨3259.648,2644.648⟩, ⟨3312.539,2595.539⟩,
    ⟨3366.1474,2546.1474⟩, ⟨3420.2576,2498.2576⟩, ⟨3474.8376,2450.8376⟩, ⟨3530.6076,2403.6076⟩,
    ⟨3586.451,2357.451⟩, ⟨3643.38,2311.38⟩, ⟨3700.4104,2266.4104⟩, ⟨3757.5638,2221.5638⟩,
    ⟨3815.9676,2176.9676⟩, ⟨3875.193,2134.193⟩, ⟨3934.838,2090.838⟩, ⟨3994.8548,2048.8548⟩,
    ⟨4055.018,2007.018⟩, ⟨4117.1742,1966.1742⟩, ⟨4178.4482,1925.4482⟩, ⟨4241.1294,1885.1294⟩,
    ⟨4304.4776,1846.4776⟩, ⟨4367.4044,1807.4044⟩, ⟨4431.8724,1768.8724⟩, ⟨4496.3732,1731.3732⟩,
    ⟨4561.4304,1693.4304⟩, ⟨4627.5326,1657.5326⟩, ⟨4693.949,1621.949⟩, ⟨4761.5532,1586.5532⟩,
    ⟨4828.7256,1551.7256⟩, ⟨4897.6182,1517.6182⟩, ⟨4965.5186,1483.5186⟩, ⟨5034.4528,1450.4528⟩,
    ⟨5104.865,1417.865⟩, ⟨5174.7164,1385.7164⟩, ⟨5244.6828,1352.6828⟩, ⟨5316.6708,1322.6708⟩,
    ⟨5387.8312,1291.8312⟩, ⟨5459.9036,1260.9036⟩, ⟨5532.476,1231.476⟩, ⟨5604.8652,1201.8652⟩,
    ⟨5679.6718,1173.6718⟩, ⟨5753.757,1145.757⟩, ⟨5830.2072,1119.2072⟩, ⟨5905.2828,1092.2828⟩,
    ⟨5980.0434,1065.0434⟩, ⟨6056.6264,1038.6264⟩, ⟨6134.3192,1014.3192⟩, ⟨6211.5746,988.5746⟩,
    ⟨6290.0816,965.0816⟩, ⟨6367.1176,940.1176⟩, ⟨6447.9796,917.9796⟩, ⟨6526.5576,894.5576⟩,
    ⟨6606.1858,871.1858⟩, ⟨6686.9144,849.9144⟩, ⟨6766.1142,827.1142⟩, ⟨6847.0818,805.0818⟩,
    ⟨6927.9664,783.9664⟩, ⟨7010.9096,763.9096⟩, ⟨7091.0816,742.0816⟩, ⟨7175.3962,724.3962⟩,
    ⟨7260.3454,706.3454⟩, ⟨7344.018,688.018⟩, ⟨7426.4214,667.4214⟩, ⟨7511.3106,650.3106⟩,
    ⟨7596.0686,633.0686⟩, ⟨7679.8094,613.8094⟩, ⟨7765.818,597.818⟩, ⟨7852.4248,581.4248⟩,
    ⟨7936.834,563.834⟩, ⟨8022.363,547.363⟩, ⟨8109.5066,531.5066⟩, ⟨8200.4554,520.455400000001⟩,
    ⟨8288.5832,505.583199999999⟩, ⟨8373.366,488.366⟩, ⟨8463.4808,476.480799999999⟩,
    ⟨8549.7682,459.7682⟩, ⟨8642.0522,450.0522⟩, ⟨8728.3288,434.328799999999⟩,
    ⟨8820.9528,423.952799999999⟩, ⟨8907.727,408.727000000001⟩, ⟨9001.0794,399.079400000001⟩,
    ⟨9091.2522,387.252200000001⟩, ⟨9179.988,373.987999999999⟩, ⟨9269.852,360.852000000001⟩,
    ⟨9362.6394,351.6394⟩, ⟨9453.642,339.642⟩, ⟨9546.9024,330.902400000001⟩,
    ⟨9640.6616,322.661599999999⟩, ⟨9732.6622,311.662200000001⟩, ⟨9824.3254,301.3254⟩,
    ⟨9917.7484,291.7484⟩, ⟨10007.9392,279.939200000001⟩, ⟨10106.7508,276.7508⟩,
    ⟨10196.2152,263.215200000001⟩, ⟨10289.8114,254.811400000001⟩, ⟨10383.5494,245.5494⟩,
    ⟨10482.3064,242.306399999999⟩, ⟨10576.8734,234.8734⟩, ⟨10668.7872,223.787200000001⟩,
    ⟨10764.7156,217.7156⟩, ⟨10862.0196,212.0196⟩, ⟨10952.793,200.793⟩, ⟨11049.9748,195.9748⟩,
    ⟨11146.0702,189.0702⟩, ⟨11241.4492,182.449199999999⟩, ⟨11339.2772,177.2772⟩,
    ⟨11434.2336,170.2336⟩, ⟨11530.741,164.741⟩, ⟨11627.6136,158.613600000001⟩, ⟨11726.311,155.311⟩,
    ⟨11821.5964,147.5964⟩, ⟨11918.837,142.837⟩, ⟨12015.3724,137.3724⟩, ⟨12113.0162,132.0162⟩,
    ⟨12213.0424,130.0424⟩, ⟨12306.9804,121.9804⟩, ⟨12408.4518,120.451800000001⟩,
    ⟨12504.8968,114.8968⟩, ⟨12604.586,111.585999999999⟩, ⟨12700.9332,105.933199999999⟩,
    ⟨12798.705,101.705⟩, ⟨12898.5142,98.5141999999996⟩, ⟨12997.0488,95.0488000000005⟩,
    ⟨13094.788,89.7880000000005⟩, ⟨13198.475,91.4750000000004⟩, ⟨13292.7764,83.7764000000006⟩,
    ⟨13392.9698,80.9698000000008⟩, ⟨13486.8574,72.8574000000008⟩, ⟨13590.1616,73.1615999999995⟩,
    ⟨13686.5838,67.5838000000003⟩, ⟨13783.6264,62.6263999999992⟩, ⟨13887.2638,63.2638000000006⟩,
    ⟨13992.0978,66.0977999999996⟩, ⟨14081.0844,52.0843999999997⟩, ⟨14189.9956,58.9956000000002⟩,
    ⟨14280.0912,47.0912000000008⟩, ⟨14382.4956,46.4956000000002⟩, ⟨14486.4384,48.4383999999991⟩,
    ⟨14588.1082,47.1082000000006⟩, ⟨14686.2392,43.2392⟩, ⟨14782.276,37.2759999999998⟩,
    ⟨14888.0284,40.0283999999992⟩, ⟨14985.1864,35.1864000000005⟩, ⟨15088.8596,35.8595999999998⟩,
    ⟨15187.0998,32.0998⟩, ⟨15285.027,28.027⟩, ⟨15383.6694,23.6694000000007⟩,
    ⟨15495.8266,33.8266000000003⟩, ⟨15591.3736,26.3736000000008⟩, ⟨15694.2008,27.2008000000005⟩,
    ⟨15790.3246,21.3245999999999⟩, ⟨15898.4116,26.4115999999995⟩, ⟨15997.4522,23.4521999999997⟩,
    ⟨16095.5014,19.5013999999992⟩, ⟨16198.8514,19.8513999999996⟩, ⟨16291.7492,10.7492000000002⟩,
    ⟨16402.6424,18.6424000000006⟩, ⟨16499.1266,13.1265999999996⟩, ⟨16606.2436,18.2436000000016⟩,
    ⟨16697.7186,6.71860000000015⟩, ⟨16796.3946,3.39459999999963⟩, ⟨16902.3376,6.33759999999893⟩,
    ⟨17005.7672,7.76719999999841⟩, ⟨17100.814,0.813999999998487⟩, ⟨17206.8282,3.82819999999992⟩,
    ⟨17305.8262,0.826199999999517⟩, ⟨17416.0744,8.07440000000133⟩, ⟨17508.4092,-1.59080000000176⟩,
    ⟨17617.0178,5.01780000000144⟩, ⟨17715.4554,0.455399999998917⟩, ⟨17816.758,-0.24199999999837⟩,
    ⟨17920.1748,0.174800000000687⟩, ⟨18012.9236,-9.07640000000174⟩, ⟨18119.7984,-4.20160000000033⟩,
    ⟨18223.2248,-3.77520000000004⟩, ⟨18324.2482,-4.75179999999818⟩, ⟨18426.6276,-5.3724000000002⟩,
    ⟨18525.0932,-8.90680000000066⟩, ⟨18629.8976,-6.10239999999976⟩, ⟨18733.2588,-5.74120000000039⟩,
    ⟨18831.0466,-9.95339999999851⟩, ⟨18940.1366,-3.86339999999836⟩, ⟨19032.2696,-13.7304000000004⟩,
    ⟨19131.729,-16.2710000000006⟩, ⟨19243.4864,-7.51359999999841⟩, ⟨19349.6932,-3.30679999999847⟩,
    ⟨19442.866,-13.1339999999982⟩, ⟨19547.9448,-10.0551999999989⟩, ⟨19653.2798,-6.72019999999975⟩,
    ⟨19754.4034,-8.59660000000076⟩, ⟨19854.0692,-10.9307999999983⟩, ⟨19965.1224,-1.8775999999998⟩,
    ⟨20065.1774,-4.82259999999951⟩, ⟨20158.2212,-13.7788⟩, ⟨20253.353,-21.6470000000008⟩,
    ⟨20366.3264,-10.6735999999983⟩, ⟨20463.22,-15.7799999999988⟩]

def samples13 : Array Sample := #[
    ⟨5908.5052,5907.5052⟩, ⟨6007.2672,5802.2672⟩, ⟨6107.347,5697.347⟩, ⟨6208.5794,5593.5794⟩,
    ⟨6311.2622,5491.2622⟩, ⟨6414.5514,5390.5514⟩, ⟨6519.3376,5290.3376⟩, ⟨6625.6952,5191.6952⟩,
    ⟨6732.5988,5093.5988⟩, ⟨6841.3552,4997.3552⟩, ⟨6950.5972,4902.5972⟩, ⟨7061.3082,4808.3082⟩,
    ⟨7173.5646,4715.5646⟩, ⟨7287.109,4624.109⟩, ⟨7401.8216,4533.8216⟩, ⟨7516.4344,4444.4344⟩,
    ⟨7633.3802,4356.3802⟩, ⟨7751.2962,4269.2962⟩, ⟨7870.3784,4183.3784⟩, ⟨7990.292,4098.292⟩,
    ⟨8110.79,4014.79⟩, ⟨8233.4574,3932.4574⟩, ⟨8356.6036,3850.6036⟩, ⟨8482.2712,3771.2712⟩,
    ⟨8607.7708,3691.7708⟩, ⟨8735.099,3615.099⟩, ⟨8863.1858,3538.1858⟩, ⟨8993.4746,3463.4746⟩,
    ⟨9123.8496,3388.8496⟩, ⟨9255.6794,3315.6794⟩, ⟨9388.5448,3244.5448⟩, ⟨9522.7516,3173.7516⟩,
    ⟨9657.3106,3103.3106⟩, ⟨9792.6094,3033.6094⟩, ⟨9930.5642,2966.5642⟩, ⟨10068.794,2900.794⟩,
    ⟨10206.7256,2833.7256⟩, ⟨10347.81,2769.81⟩, ⟨10490.3196,2707.3196⟩, ⟨10632.0778,2644.0778⟩,
    ⟨10775.9916,2583.9916⟩, ⟨10920.4662,2523.4662⟩, ⟨11066.124,2464.124⟩, ⟨11213.073,2406.073⟩,
    ⟨11358.0362,2347.0362⟩, ⟨11508.1006,2292.1006⟩, ⟨11659.1716,2238.1716⟩, ⟨11808.7514,2182.7514⟩,
    ⟨11959.4884,2128.4884⟩, ⟨12112.1314,2077.1314⟩, ⟨12265.037,2025.037⟩, ⟨12420.3756,1975.3756⟩,
    ⟨12578.933,1928.933⟩, ⟨12734.311,1879.311⟩, ⟨12890.0006,1831.0006⟩, ⟨13047.2144,1783.2144⟩,
    ⟨13207.3096,1738.3096⟩, ⟨13368.5144,1694.5144⟩, ⟨13528.024,1649.024⟩, ⟨13689.847,1606.847⟩,
    ⟨13852.7528,1564.7528⟩, ⟨14018.3168,1525.3168⟩, ⟨14180.5372,1482.5372⟩, ⟨14346.9668,1443.9668⟩,
    ⟨14513.5074,1406.5074⟩, ⟨14677.867,1365.867⟩, ⟨14846.2186,1329.2186⟩, ⟨15017.4186,1295.4186⟩,
    ⟨15184.9716,1257.9716⟩, ⟨15356.339,1225.339⟩, ⟨15529.2972,1193.2972⟩, ⟨15697.3578,1156.3578⟩,
    ⟨15871.8686,1125.8686⟩, ⟨16042.187,1091.187⟩, ⟨16216.4094,1061.4094⟩, ⟨16389.4188,1029.4188⟩,
    ⟨16565.9126,1000.9126⟩, ⟨16742.3272,972.3272⟩, ⟨16919.0042,944.004199999999⟩,
    ⟨17094.7592,915.7592⟩, ⟨17273.965,889.965⟩, ⟨17451.8342,862.834200000001⟩,
    ⟨17634.4254,840.4254⟩, ⟨17810.5984,812.598399999999⟩, ⟨17988.9242,785.924200000001⟩,
    ⟨18171.051,763.050999999999⟩, ⟨18354.7938,741.793799999999⟩, ⟨18539.466,721.466⟩,
    ⟨18721.0408,699.040799999999⟩, ⟨18904.9972,677.997200000002⟩, ⟨19081.867,649.866999999998⟩,
    ⟨19271.9118,634.911800000002⟩, ⟨19451.8694,609.8694⟩, ⟨19637.9816,591.981599999999⟩,
    ⟨19821.2922,570.2922⟩, ⟨20013.1292,557.129199999999⟩, ⟨20199.3858,538.3858⟩,
    ⟨20387.8726,521.872599999999⟩, ⟨20572.9514,502.951400000002⟩, ⟨20770.7764,495.776399999999⟩,
    ⟨20955.1714,475.171399999999⟩, ⟨21144.751,459.751⟩, ⟨21329.9952,439.995200000001⟩,
    ⟨21520.709,426.708999999999⟩, ⟨21712.7016,413.7016⟩, ⟨21906.3868,402.3868⟩,
    ⟨22096.2626,387.262599999998⟩, ⟨22286.0524,372.0524⟩, ⟨22475.051,357.050999999999⟩,
    ⟨22665.5098,342.5098⟩, ⟨22862.8492,334.849200000001⟩, ⟨23055.5294,322.529399999999⟩,
    ⟨23249.6138,311.613799999999⟩, ⟨23437.848,295.848000000002⟩, ⟨23636.273,289.273000000001⟩,
    ⟨23826.093,274.093000000001⟩, ⟨24020.3296,263.329600000001⟩, ⟨24213.3896,251.389599999999⟩,
    ⟨24411.7392,245.7392⟩, ⟨24602.9614,231.9614⟩, ⟨24805.7952,229.7952⟩,
    ⟨24998.1552,217.155200000001⟩, ⟨25193.9588,208.9588⟩, ⟨25389.0166,199.016599999999⟩,
    ⟨25585.8392,190.839199999999⟩, ⟨25780.6976,180.6976⟩, ⟨25981.2728,176.272799999999⟩,
    ⟨26175.977,166.976999999999⟩, ⟨26376.5252,162.5252⟩, ⟨26570.1964,151.196400000001⟩,
    ⟨26773.387,149.386999999999⟩, ⟨26962.9812,133.981199999998⟩, ⟨27163.0586,130.0586⟩,
    ⟨27368.164,130.164000000001⟩, ⟨27565.0534,122.053400000001⟩, ⟨27758.7428,110.7428⟩,
    ⟨27961.1276,108.1276⟩, ⟨28163.2324,106.232400000001⟩, ⟨28362.3816,100.381600000001⟩,
    ⟨28565.7668,98.7668000000012⟩, ⟨28758.644,86.6440000000002⟩, ⟨28956.9768,79.9768000000004⟩,
    ⟨29163.4722,82.4722000000002⟩, ⟨29354.7026,68.7026000000005⟩, ⟨29561.1186,70.1186000000016⟩,
    ⟨29767.9948,71.9948000000004⟩, ⟨29959.9986,58.998599999999⟩, ⟨30164.0492,59.0492000000013⟩,
    ⟨30366.9818,56.9818000000014⟩, ⟨30562.5338,47.5338000000011⟩, ⟨30762.9928,42.9928⟩,
    ⟨30976.1592,51.1591999999982⟩, ⟨31166.274,37.2740000000013⟩, ⟨31376.722,42.7220000000016⟩,
    ⟨31570.3734,31.3734000000004⟩, ⟨31770.809,26.8090000000011⟩, ⟨31974.8934,25.8934000000008⟩,
    ⟨32179.5286,26.5286000000015⟩, ⟨32387.5442,29.5442000000003⟩, ⟨32582.3504,19.3503999999994⟩,
    ⟨32794.076,26.0760000000009⟩, ⟨32989.9528,17.9527999999991⟩, ⟨33191.842,14.8419999999969⟩,
    ⟨33392.4684,10.4683999999979⟩, ⟨33595.659,8.65899999999965⟩, ⟨33801.8672,9.86720000000059⟩,
    ⟨34000.3414,4.34139999999752⟩, ⟨34200.0922,-0.907800000000861⟩, ⟨34402.6792,-3.32080000000133⟩,
    ⟨34610.0638,-0.936199999996461⟩, ⟨34804.0084,-11.9916000000012⟩, ⟨35011.13,-8.87000000000262⟩,
    ⟨35218.669,-6.33099999999831⟩, ⟨35418.6634,-11.3366000000024⟩, ⟨35619.0792,-15.9207999999999⟩,
    ⟨35830.6534,-9.34659999999712⟩, ⟨36028.4966,-15.5034000000014⟩, ⟨36229.7902,-19.2097999999969⟩,
    ⟨36438.6422,-15.357799999998⟩, ⟨36630.7764,-28.2235999999975⟩, ⟨36833.3102,-30.6898000000001⟩,
    ⟨37048.6728,-19.3271999999997⟩, ⟨37247.3916,-25.6083999999973⟩, ⟨37453.5904,-24.409599999999⟩,
    ⟨37669.3614,-13.6385999999984⟩, ⟨37854.5526,-33.4473999999973⟩, ⟨38059.305,-32.6949999999997⟩,
    ⟨38268.0936,-28.9063999999998⟩, ⟨38470.2516,-31.7483999999968⟩, ⟨38674.7064,-32.2935999999972⟩,
    ⟨38876.167,-35.8329999999987⟩, ⟨39068.3794,-47.620600000002⟩, ⟨39281.9144,-39.0855999999985⟩,
    ⟨39492.8566,-33.1434000000008⟩, ⟨39684.8628,-46.1371999999974⟩, ⟨39898.4108,-37.5892000000022⟩,
    ⟨40093.1836,-46.8164000000033⟩, ⟨40297.6858,-47.3142000000007⟩, ⟨40489.7086,-60.2914000000019⟩,
    ⟨40717.2424,-37.7575999999972⟩]

def samples14 : Array Sample := #[
    ⟨11817.475,11816.475⟩, ⟨12015.0046,11605.0046⟩, ⟨12215.3792,11395.3792⟩,
    ⟨12417.7504,11188.7504⟩, ⟨12623.1814,10984.1814⟩, ⟨12830.0086,10782.0086⟩,
    ⟨13040.0072,10582.0072⟩, ⟨13252.503,10384.503⟩, ⟨13466.178,10189.178⟩, ⟨13683.2738,9996.2738⟩,
    ⟨13902.0344,9806.0344⟩, ⟨14123.9798,9617.9798⟩, ⟨14347.394,9431.394⟩, ⟨14573.7784,9248.7784⟩,
    ⟨14802.6894,9067.6894⟩, ⟨15033.6824,8889.6824⟩, ⟨15266.9134,8712.9134⟩, ⟨15502.8624,8538.8624⟩,
    ⟨15741.4944,8368.4944⟩, ⟨15980.7956,8197.7956⟩, ⟨16223.8916,8031.8916⟩, ⟨16468.6316,7866.6316⟩,
    ⟨16715.733,7703.733⟩, ⟨16965.5726,7544.5726⟩, ⟨17217.204,7386.204⟩, ⟨17470.666,7230.666⟩,
    ⟨17727.8516,7077.8516⟩, ⟨17986.7886,6926.7886⟩, ⟨18247.6902,6778.6902⟩, ⟨18510.9632,6631.9632⟩,
    ⟨18775.304,6487.304⟩, ⟨19044.7486,6346.7486⟩, ⟨19314.4408,6206.4408⟩, ⟨19587.202,6070.202⟩,
    ⟨19862.2576,5935.2576⟩, ⟨20135.924,5799.924⟩, ⟨20417.0324,5671.0324⟩, ⟨20697.9788,5541.9788⟩,
    ⟨20979.6112,5414.6112⟩, ⟨21265.0274,5290.0274⟩, ⟨21550.723,5166.723⟩, ⟨21841.6906,5047.6906⟩,
    ⟨22132.162,4929.162⟩, ⟨22428.1406,4815.1406⟩, ⟨22722.127,4699.127⟩, ⟨23020.5606,4588.5606⟩,
    ⟨23319.7394,4477.7394⟩, ⟨23620.4014,4369.4014⟩, ⟨23925.2728,4264.2728⟩, ⟨24226.9224,4155.9224⟩,
    ⟨24535.581,4055.581⟩, ⟨24845.505,3955.505⟩, ⟨25155.9618,3856.9618⟩, ⟨25470.3828,3761.3828⟩,
    ⟨25785.9702,3666.9702⟩, ⟨26103.7764,3575.7764⟩, ⟨26420.4132,3482.4132⟩, ⟨26742.0186,3395.0186⟩,
    ⟨27062.8852,3305.8852⟩, ⟨27388.415,3221.415⟩, ⟨27714.6024,3138.6024⟩, ⟨28042.296,3056.296⟩,
    ⟨28365.4494,2970.4494⟩, ⟨28701.1526,2896.1526⟩, ⟨29031.8008,2816.8008⟩, ⟨29364.2156,2740.2156⟩,
    ⟨29704.497,2670.497⟩, ⟨30037.1458,2594.1458⟩, ⟨30380.111,2527.111⟩, ⟨30723.8168,2460.8168⟩,
    ⟨31059.5114,2387.5114⟩, ⟨31404.9498,2322.9498⟩, ⟨31751.6752,2260.6752⟩, ⟨32095.2686,2194.2686⟩,
    ⟨32444.7792,2133.7792⟩, ⟨32794.767,2074.767⟩, ⟨33145.204,2015.204⟩, ⟨33498.4226,1959.4226⟩,
    ⟨33847.6502,1898.6502⟩, ⟨34209.006,1850.006⟩, ⟨34560.849,1792.849⟩, ⟨34919.4838,1741.4838⟩,
    ⟨35274.9778,1687.9778⟩, ⟨35635.1322,1638.1322⟩, ⟨35996.3266,1589.3266⟩, ⟨36359.1394,1543.1394⟩,
    ⟨36722.8266,1496.8266⟩, ⟨37082.8516,1447.8516⟩, ⟨37447.7354,1402.7354⟩, ⟨37815.9606,1361.9606⟩,
    ⟨38191.0692,1327.0692⟩, ⟨38559.4106,1285.4106⟩, ⟨38924.8112,1241.8112⟩, ⟨39294.6726,1201.6726⟩,
    ⟨39663.973,1161.973⟩, ⟨40042.261,1130.261⟩, ⟨40416.2036,1094.2036⟩, ⟨40779.2036,1048.2036⟩,
    ⟨41161.6436,1020.6436⟩, ⟨41540.9014,990.901400000002⟩, ⟨41921.1998,961.199800000002⟩,
    ⟨42294.7698,924.769800000002⟩, ⟨42678.5264,899.526400000002⟩, ⟨43061.3464,872.346400000002⟩,
    ⟨43432.375,834.375⟩, ⟨43818.432,810.432000000001⟩, ⟨44198.6598,780.659800000001⟩,
    ⟨44583.0138,756.013800000001⟩, ⟨44970.4794,733.479399999997⟩, ⟨45353.924,707.923999999999⟩,
    ⟨45729.858,673.858⟩, ⟨46118.2224,652.222399999999⟩, ⟨46511.5724,636.572399999997⟩,
    ⟨46900.7386,615.738599999997⟩, ⟨47280.6964,586.696400000001⟩, ⟨47668.1472,564.147199999999⟩,
    ⟨48055.6796,541.679600000003⟩, ⟨48446.9436,523.943599999999⟩, ⟨48838.7146,505.714599999999⟩,
    ⟨49217.7296,475.729599999999⟩, ⟨49613.7796,461.779600000002⟩, ⟨50010.7508,449.750800000002⟩,
    ⟨50410.0208,439.020799999998⟩, ⟨50793.7886,412.7886⟩, ⟨51190.2456,400.245600000002⟩,
    ⟨51583.1882,383.188199999997⟩, ⟨51971.0796,362.079599999997⟩, ⟨52376.5338,357.533799999997⟩,
    ⟨52763.319,334.319000000003⟩, ⟨53165.5534,327.553399999997⟩, ⟨53556.5594,308.559399999998⟩,
    ⟨53948.2702,291.270199999999⟩, ⟨54346.352,279.351999999999⟩, ⟨54748.7914,271.791400000002⟩,
    ⟨55138.577,252.576999999997⟩, ⟨55543.4824,247.482400000001⟩, ⟨55941.1748,236.174800000001⟩,
    ⟨56333.7746,218.774599999997⟩, ⟨56745.1552,220.155200000001⟩, ⟨57142.7944,208.794399999999⟩,
    ⟨57545.2236,201.223599999998⟩, ⟨57935.9956,182.995600000002⟩, ⟨58348.5268,185.5268⟩,
    ⟨58737.5474,164.547400000003⟩, ⟨59158.5962,176.5962⟩, ⟨59542.6896,150.689599999998⟩,
    ⟨59958.8004,157.8004⟩, ⟨60349.3788,138.378799999999⟩, ⟨60755.0212,134.021200000003⟩,
    ⟨61147.6144,117.614399999999⟩, ⟨61548.194,108.194000000003⟩, ⟨61946.0696,97.0696000000025⟩,
    ⟨62348.6042,89.6042000000016⟩, ⟨62763.603,95.6030000000028⟩, ⟨63162.781,84.7810000000027⟩,
    ⟨63560.635,72.635000000002⟩, ⟨63974.3482,77.3482000000004⟩, ⟨64366.4908,59.4907999999996⟩,
    ⟨64771.5876,55.5875999999989⟩, ⟨65176.7346,50.7346000000034⟩, ⟨65597.3916,61.3916000000027⟩,
    ⟨65995.915,50.9149999999936⟩, ⟨66394.0384,39.0384000000049⟩, ⟨66822.9396,58.9395999999979⟩,
    ⟨67203.6336,29.633600000001⟩, ⟨67612.2032,28.2032000000036⟩, ⟨68019.0078,26.0078000000067⟩,
    ⟨68420.0388,17.0387999999948⟩, ⟨68821.22,9.22000000000116⟩, ⟨69235.8388,13.8387999999977⟩,
    ⟨69640.0724,8.07240000000456⟩, ⟨70055.155,14.1549999999988⟩, ⟨70466.357,15.3570000000036⟩,
    ⟨70863.4266,3.42660000000615⟩, ⟨71276.2482,6.24820000000182⟩, ⟨71677.0306,-2.96940000000177⟩,
    ⟨72080.2006,-8.79940000000352⟩, ⟨72493.0214,-5.97860000000219⟩, ⟨72893.5952,-14.4048000000039⟩,
    ⟨73314.5856,-3.4143999999942⟩, ⟨73714.9852,-13.0148000000045⟩, ⟨74125.3022,-11.6977999999945⟩,
    ⟨74521.2122,-25.7878000000055⟩, ⟨74933.6814,-22.3185999999987⟩, ⟨75341.5904,-24.409599999999⟩,
    ⟨75743.0244,-31.9756000000052⟩, ⟨76166.0278,-18.9722000000038⟩, ⟨76572.1322,-22.8678000000073⟩,
    ⟨76973.1028,-30.8972000000067⟩, ⟨77381.6284,-32.3715999999986⟩, ⟨77800.6092,-22.3907999999938⟩,
    ⟨78189.328,-43.6720000000059⟩, ⟨78607.0962,-35.9038⟩, ⟨79012.2508,-39.7492000000057⟩,
    ⟨79407.8358,-54.1641999999993⟩, ⟨79825.725,-45.2749999999942⟩, ⟨80238.701,-42.2989999999991⟩,
    ⟨80646.891,-44.1089999999967⟩, ⟨81035.6436,-64.3564000000042⟩, ⟨81460.0448,-49.9551999999967⟩,
    ⟨81876.3884,-42.6116000000038⟩]

def samples15 : Array Sample := #[
    ⟨23635.0036,23634.0036⟩, ⟨24030.8034,23210.8034⟩, ⟨24431.4744,22792.4744⟩,
    ⟨24837.1524,22379.1524⟩, ⟨25246.7928,21969.7928⟩, ⟨25661.326,21565.326⟩,
    ⟨26081.3532,21165.3532⟩, ⟨26505.2806,20770.2806⟩, ⟨26933.9892,20379.9892⟩,
    ⟨27367.7098,19994.7098⟩, ⟨27805.318,19613.318⟩, ⟨28248.799,19236.799⟩, ⟨28696.4382,18865.4382⟩,
    ⟨29148.8244,18498.8244⟩, ⟨29605.5138,18136.5138⟩, ⟨30066.8668,17778.8668⟩,
    ⟨30534.2344,17426.2344⟩, ⟨31006.32,17079.32⟩, ⟨31480.778,16734.778⟩, ⟨31962.2418,16397.2418⟩,
    ⟨32447.3324,16063.3324⟩, ⟨32938.0232,15734.0232⟩, ⟨33432.731,15409.731⟩, ⟨33930.728,15088.728⟩,
    ⟨34433.9896,14772.9896⟩, ⟨34944.1402,14464.1402⟩, ⟨35457.5588,14157.5588⟩,
    ⟨35974.5958,13855.5958⟩, ⟨36497.3296,13559.3296⟩, ⟨37021.9096,13264.9096⟩,
    ⟨37554.326,12978.326⟩, ⟨38088.0826,12692.0826⟩, ⟨38628.8816,12413.8816⟩,
    ⟨39171.3192,12137.3192⟩, ⟨39723.2326,11870.2326⟩, ⟨40274.5554,11602.5554⟩,
    ⟨40832.3142,11340.3142⟩, ⟨41390.613,11079.613⟩, ⟨41959.5908,10829.5908⟩,
    ⟨42532.5466,10583.5466⟩, ⟨43102.0344,10334.0344⟩, ⟨43683.5072,10095.5072⟩, ⟨44266.694,9859.694⟩,
    ⟨44851.2822,9625.2822⟩, ⟨45440.7862,9395.7862⟩, ⟨46038.0586,9174.0586⟩, ⟨46640.3164,8957.3164⟩,
    ⟨47241.064,8738.064⟩, ⟨47846.155,8524.155⟩, ⟨48454.7396,8313.7396⟩, ⟨49076.9168,8116.9168⟩,
    ⟨49692.542,7913.542⟩, ⟨50317.4778,7718.4778⟩, ⟨50939.65,7521.65⟩, ⟨51572.5596,7335.5596⟩,
    ⟨52210.2906,7154.2906⟩, ⟨52843.7396,6968.7396⟩, ⟨53481.3996,6786.3996⟩, ⟨54127.236,6613.236⟩,
    ⟨54770.406,6437.406⟩, ⟨55422.6598,6270.6598⟩, ⟨56078.7958,6107.7958⟩, ⟨56736.7174,5945.7174⟩,
    ⟨57397.6784,5787.6784⟩, ⟨58064.5784,5635.5784⟩, ⟨58730.308,5482.308⟩, ⟨59404.9784,5337.9784⟩,
    ⟨60077.0864,5190.0864⟩, ⟨60751.9158,5045.9158⟩, ⟨61444.1386,4919.1386⟩, ⟨62115.817,4771.817⟩,
    ⟨62808.7742,4645.7742⟩, ⟨63501.4774,4518.4774⟩, ⟨64187.5454,4385.5454⟩, ⟨64883.6622,4262.6622⟩,
    ⟨65582.7468,4142.74679999999⟩, ⟨66274.5318,4015.5318⟩, ⟨66976.9276,3897.9276⟩,
    ⟨67688.7764,3790.7764⟩, ⟨68402.138,3685.13800000001⟩, ⟨69109.6274,3573.6274⟩,
    ⟨69822.9706,3467.9706⟩, ⟨70543.6108,3368.61079999999⟩, ⟨71265.5202,3271.5202⟩,
    ⟨71983.3848,3170.3848⟩, ⟨72708.4656,3076.4656⟩, ⟨73433.384,2982.38400000001⟩,
    ⟨74158.4664,2888.4664⟩, ⟨74896.4868,2806.4868⟩, ⟨75620.9564,2711.9564⟩, ⟨76362.1434,2634.1434⟩,
    ⟨77098.3204,2551.3204⟩, ⟨77835.7662,2469.7662⟩, ⟨78582.6114,2396.61139999999⟩,
    ⟨79323.9902,2318.9902⟩, ⟨80067.8658,2243.8658⟩, ⟨80814.9246,2171.9246⟩,
    ⟨81567.0136,2105.01360000001⟩, ⟨82310.8536,2028.8536⟩, ⟨83061.9952,1960.9952⟩,
    ⟨83821.4096,1901.4096⟩, ⟨84580.8608,1841.86079999999⟩, ⟨85335.547,1777.54700000001⟩,
    ⟨86092.5802,1714.5802⟩, ⟨86851.6506,1654.65059999999⟩, ⟨87612.311,1596.311⟩,
    ⟨88381.2016,1546.2016⟩, ⟨89146.3296,1492.3296⟩, ⟨89907.8974,1433.8974⟩,
    ⟨90676.846,1383.84600000001⟩, ⟨91451.4152,1339.4152⟩, ⟨92224.5518,1293.5518⟩,
    ⟨92995.8686,1245.8686⟩, ⟨93763.5066,1193.50659999999⟩, ⟨94551.2796,1162.27959999999⟩,
    ⟨95315.1944,1107.19439999999⟩, ⟨96096.1806,1069.18060000001⟩, ⟨96881.0918,1035.09179999999⟩,
    ⟨97665.679,999.679000000004⟩, ⟨98442.68,957.679999999993⟩, ⟨99229.3002,925.300199999998⟩,
    ⟨100011.0994,888.099400000006⟩, ⟨100790.6386,848.638600000006⟩, ⟨101580.1564,818.156400000007⟩,
    ⟨102377.7484,796.748399999997⟩, ⟨103152.1392,752.139200000005⟩, ⟨103944.2712,725.271200000003⟩,
    ⟨104730.216,692.216⟩, ⟨105528.6336,671.633600000001⟩, ⟨106324.9398,647.939799999993⟩,
    ⟨107117.6706,621.670599999998⟩, ⟨107890.3988,575.398799999995⟩, ⟨108695.2266,561.226599999995⟩,
    ⟨109485.238,532.237999999998⟩, ⟨110294.7876,521.787599999996⟩, ⟨111075.0958,483.095799999996⟩,
    ⟨111878.0496,467.049599999998⟩, ⟨112695.2864,465.286399999997⟩, ⟨113464.5486,415.548599999995⟩,
    ⟨114270.0474,401.047399999996⟩, ⟨115068.608,380.607999999993⟩, ⟨115884.3626,377.362599999993⟩,
    ⟨116673.2588,347.258799999996⟩, ⟨117483.3716,338.371599999999⟩, ⟨118275.097,310.096999999994⟩,
    ⟨119085.4092,301.409199999995⟩, ⟨119879.2808,276.280799999993⟩, ⟨120687.5868,265.586800000005⟩,
    ⟨121499.9944,258.994399999996⟩, ⟨122284.916,223.915999999997⟩, ⟨123095.9254,215.925399999993⟩,
    ⟨123912.5038,213.503800000006⟩, ⟨124709.0454,191.045400000003⟩, ⟨125503.7182,166.718200000003⟩,
    ⟨126323.259,166.259000000005⟩, ⟨127138.9412,162.941200000001⟩, ⟨127943.8294,148.829400000002⟩,
    ⟨128755.646,141.645999999993⟩, ⟨129556.5354,123.535399999993⟩, ⟨130375.3298,122.329800000007⟩,
    ⟨131161.4734,89.473399999988⟩, ⟨131971.1962,80.1962000000058⟩, ⟨132787.5458,77.5457999999926⟩,
    ⟨133588.1056,59.1056000000099⟩, ⟨134431.351,83.3509999999951⟩, ⟨135220.2906,52.2906000000075⟩,
    ⟨136023.398,36.3979999999865⟩, ⟨136846.6558,40.6558000000077⟩, ⟨137667.0004,42.0003999999899⟩,
    ⟨138463.663,19.6630000000005⟩, ⟨139283.7154,19.7153999999864⟩, ⟨140074.6146,-8.38539999999921⟩,
    ⟨140901.3072,-0.692799999989802⟩, ⟨141721.8548,0.854800000000978⟩,
    ⟨142543.2322,3.23219999999856⟩, ⟨143356.1096,-3.89040000000386⟩,
    ⟨144173.7412,-5.25880000001052⟩, ⟨144973.0948,-24.9052000000083⟩,
    ⟨145794.3162,-22.6837999999989⟩, ⟨146609.5714,-26.4286000000138⟩, ⟨147420.003,-34.997000000003⟩,
    ⟨148237.9784,-37.0216000000073⟩, ⟨149050.5696,-43.430400000012⟩, ⟨149854.761,-58.2390000000014⟩,
    ⟨150663.1966,-68.8034000000043⟩, ⟨151494.0754,-56.9245999999985⟩,
    ⟨152313.1416,-57.8583999999973⟩, ⟨153112.6902,-77.3097999999882⟩,
    ⟨153935.7206,-73.2793999999994⟩, ⟨154746.9262,-81.0738000000129⟩,
    ⟨155559.547,-87.4530000000086⟩, ⟨156401.9746,-65.0254000000132⟩, ⟨157228.7036,-57.296399999992⟩,
    ⟨158008.7254,-96.2746000000043⟩, ⟨158820.75,-103.25⟩, ⟨159646.9184,-96.081600000005⟩,
    ⟨160470.4458,-91.5542000000132⟩, ⟨161279.5348,-102.465200000006⟩,
    ⟨162093.3114,-107.688599999994⟩, ⟨162918.542,-101.458000000013⟩,
    ⟨163729.2842,-109.715800000005⟩]

def samples16 : Array Sample := #[
    ⟨47271.0,47270.0⟩, ⟨48062.3584,46423.3584⟩, ⟨48862.7074,45585.7074⟩, ⟨49673.152,44757.152⟩,
    ⟨50492.8416,43938.8416⟩, ⟨51322.9514,43130.9514⟩, ⟨52161.03,42330.03⟩, ⟨53009.407,41540.407⟩,
    ⟨53867.6348,40759.6348⟩, ⟨54734.206,39988.206⟩, ⟨55610.5144,39226.5144⟩,
    ⟨56496.2096,38473.2096⟩, ⟨57390.795,37729.795⟩, ⟨58297.268,36997.268⟩, ⟨59210.6448,36272.6448⟩,
    ⟨60134.665,35558.665⟩, ⟨61068.0248,34853.0248⟩, ⟨62010.4472,34157.4472⟩,
    ⟨62962.5204,33470.5204⟩, ⟨63923.5742,32793.5742⟩, ⟨64895.0194,32127.0194⟩,
    ⟨65876.4182,31469.4182⟩, ⟨66862.6136,30817.6136⟩, ⟨67862.6968,30178.6968⟩,
    ⟨68868.8908,29546.8908⟩, ⟨69882.8544,28922.8544⟩, ⟨70911.271,28312.271⟩,
    ⟨71944.0924,27707.0924⟩, ⟨72990.0326,27114.0326⟩, ⟨74040.692,26526.692⟩,
    ⟨75100.6336,25948.6336⟩, ⟨76174.7826,25383.7826⟩, ⟨77252.5998,24823.5998⟩,
    ⟨78340.2974,24272.2974⟩, ⟨79438.2572,23732.2572⟩, ⟨80545.4976,23201.4976⟩,
    ⟨81657.2796,22674.2796⟩, ⟨82784.6336,22163.6336⟩, ⟨83915.515,21656.515⟩,
    ⟨85059.7362,21161.7362⟩, ⟨86205.9368,20669.9368⟩, ⟨87364.4424,20189.4424⟩,
    ⟨88530.3358,19717.3358⟩, ⟨89707.3744,19256.3744⟩, ⟨90885.9638,18795.9638⟩,
    ⟨92080.197,18352.197⟩, ⟨93275.5738,17908.5738⟩, ⟨94479.391,17474.391⟩, ⟨95695.918,17052.918⟩,
    ⟨96919.2236,16637.2236⟩, ⟨98148.4602,16228.4602⟩, ⟨99382.3474,15823.3474⟩,
    ⟨100625.6974,15428.6974⟩, ⟨101878.0284,15043.0284⟩, ⟨103141.6278,14667.6278⟩,
    ⟨104409.4588,14297.4588⟩, ⟨105686.2882,13935.2882⟩, ⟨106967.5402,13578.5402⟩,
    ⟨108261.6032,13234.6032⟩, ⟨109548.1578,12882.1578⟩, ⟨110852.0728,12548.0728⟩,
    ⟨112162.231,12219.231⟩, ⟨113479.0072,11898.0072⟩, ⟨114806.2626,11587.2626⟩,
    ⟨116137.9072,11279.9072⟩, ⟨117469.5048,10973.5048⟩, ⟨118813.5186,10678.5186⟩,
    ⟨120165.4876,10392.4876⟩, ⟨121516.2556,10105.2556⟩, ⟨122875.766,9825.766⟩,
    ⟨124250.5444,9562.5444⟩, ⟨125621.2222,9294.2222⟩, ⟨127003.2352,9038.2352⟩,
    ⟨128387.848,8784.848⟩, ⟨129775.2644,8533.2644⟩, ⟨131181.7776,8301.7776⟩,
    ⟨132577.3086,8058.30859999999⟩, ⟨133979.9458,7822.94579999999⟩, ⟨135394.1132,7599.11319999999⟩,
    ⟨136800.9078,7366.90779999999⟩, ⟨138233.217,7161.217⟩, ⟨139668.5308,6957.53080000001⟩,
    ⟨141085.212,6736.212⟩, ⟨142535.2122,6548.21220000001⟩, ⟨143969.0684,6343.06839999999⟩,
    ⟨145420.2872,6156.28719999999⟩, ⟨146878.1542,5975.15419999999⟩, ⟨148332.7572,5791.75719999999⟩,
    ⟨149800.3202,5621.32019999999⟩, ⟨151269.66,5451.66⟩, ⟨152743.6104,5287.61040000001⟩,
    ⟨154213.0948,5118.09479999999⟩, ⟨155690.288,4957.288⟩, ⟨157169.4246,4798.4246⟩,
    ⟨158672.1756,4662.17559999999⟩, ⟨160160.059,4512.05900000001⟩, ⟨161650.6854,4364.68539999999⟩,
    ⟨163145.7772,4220.77720000001⟩, ⟨164645.6726,4082.67259999999⟩, ⟨166159.1952,3957.19519999999⟩,
    ⟨167682.1578,3842.15779999999⟩, ⟨169177.3328,3699.3328⟩, ⟨170700.0118,3583.01180000001⟩,
    ⟨172228.8964,3473.8964⟩, ⟨173732.6664,3338.66639999999⟩, ⟨175265.5556,3233.55559999999⟩,
    ⟨176787.799,3117.799⟩, ⟨178317.111,3008.111⟩, ⟨179856.6914,2909.69140000001⟩,
    ⟨181400.865,2814.86499999999⟩, ⟨182943.4612,2719.46119999999⟩, ⟨184486.742,2624.742⟩,
    ⟨186033.4698,2532.46979999999⟩, ⟨187583.7886,2444.7886⟩, ⟨189148.1868,2370.1868⟩,
    ⟨190688.4526,2272.45259999999⟩, ⟨192250.1926,2196.19260000001⟩, ⟨193810.9042,2117.90419999999⟩,
    ⟨195354.2972,2023.2972⟩, ⟨196938.7682,1969.76819999999⟩, ⟨198493.5898,1885.58979999999⟩,
    ⟨200079.2824,1833.2824⟩, ⟨201618.912,1733.91200000001⟩, ⟨203205.5492,1682.54920000001⟩,
    ⟨204765.5798,1604.57980000001⟩, ⟨206356.1124,1556.11240000001⟩, ⟨207929.3064,1491.3064⟩,
    ⟨209498.7196,1421.71960000001⟩, ⟨211086.229,1371.22899999999⟩, ⟨212675.1324,1322.1324⟩,
    ⟨214256.7892,1264.7892⟩, ⟨215826.2392,1196.23920000001⟩, ⟨217412.8474,1143.8474⟩,
    ⟨218995.6724,1088.67240000001⟩, ⟨220618.6038,1073.60380000001⟩, ⟨222207.1166,1023.11660000001⟩,
    ⟨223781.0364,959.036400000012⟩, ⟨225387.4332,927.433199999999⟩, ⟨227005.7928,906.792799999996⟩,
    ⟨228590.4336,853.433599999989⟩, ⟨230217.8738,841.873800000001⟩, ⟨231805.1054,791.1054⟩,
    ⟨233408.9,756.899999999994⟩, ⟨234995.3432,704.343200000003⟩, ⟨236601.4956,672.495599999995⟩,
    ⟨238190.7904,622.790399999998⟩, ⟨239817.2548,611.254799999995⟩, ⟨241411.2832,567.283200000005⟩,
    ⟨243002.4066,519.406599999988⟩, ⟨244640.1884,519.188400000014⟩, ⟨246255.3128,495.312800000014⟩,
    ⟨247849.3508,451.350799999986⟩, ⟨249479.9734,443.973399999988⟩, ⟨251106.8822,431.882199999993⟩,
    ⟨252705.027,392.027000000002⟩, ⟨254332.9242,380.924200000009⟩, ⟨255935.129,345.128999999986⟩,
    ⟨257526.9014,298.901400000002⟩, ⟨259154.772,287.771999999997⟩, ⟨260777.625,272.625⟩,
    ⟨262390.253,247.253000000026⟩, ⟨264004.4906,222.490600000019⟩, ⟨265643.59,223.590000000026⟩,
    ⟨267255.4076,196.407599999977⟩, ⟨268873.426,176.425999999978⟩, ⟨270470.7252,134.725199999986⟩,
    ⟨272106.4804,132.4804⟩, ⟨273722.4456,110.445599999977⟩, ⟨275337.794,86.7939999999944⟩,
    ⟨276945.7038,56.7038000000175⟩, ⟨278592.9154,64.915399999998⟩, ⟨280204.3726,38.3726000000024⟩,
    ⟨281841.1606,37.1606000000029⟩, ⟨283489.171,46.170999999973⟩, ⟨285130.1716,49.1716000000015⟩,
    ⟨286735.3362,15.3362000000197⟩, ⟨288364.7164,6.71639999997569⟩, ⟨289961.1814,-34.8185999999987⟩,
    ⟨291595.5524,-39.4476000000141⟩, ⟨293285.683,12.6830000000191⟩, ⟨294899.6668,-12.3331999999937⟩,
    ⟨296499.3434,-50.6565999999875⟩, ⟨298128.0462,-59.9538000000175⟩,
    ⟨299761.8946,-65.1054000000004⟩, ⟨301394.2424,-70.7576000000117⟩,
    ⟨302997.6748,-106.325200000021⟩, ⟨304615.1478,-126.852200000023⟩,
    ⟨306269.7724,-110.227599999984⟩, ⟨307886.114,-132.885999999999⟩,
    ⟨309543.1028,-113.897200000007⟩, ⟨311153.2862,-142.713800000027⟩,
    ⟨312782.8546,-151.145399999979⟩, ⟨314421.2008,-150.799200000009⟩,
    ⟨316033.2438,-177.756200000003⟩, ⟨317692.9636,-156.036399999983⟩,
    ⟨319305.2648,-182.735199999996⟩, ⟨320948.7406,-177.259399999981⟩,
    ⟨322566.3364,-198.663600000029⟩, ⟨324228.4224,-174.577600000019⟩,
    ⟨325847.1542,-193.84580000001⟩]

def samples17 : Array Sample := #[
    ⟨94542.0,94541.0⟩, ⟨96125.811,92848.811⟩, ⟨97728.019,91174.019⟩, ⟨99348.558,89517.558⟩,
    ⟨100987.9705,87879.9705⟩, ⟨102646.7565,86262.7565⟩, ⟨104324.5125,84663.5125⟩,
    ⟨106021.7435,83083.7435⟩, ⟨107736.7865,81521.7865⟩, ⟨109469.272,79977.272⟩,
    ⟨111223.9465,78455.9465⟩, ⟨112995.219,76950.219⟩, ⟨114787.432,75465.432⟩,
    ⟨116593.152,73994.152⟩, ⟨118422.71,72546.71⟩, ⟨120267.2345,71115.2345⟩,
    ⟨122134.6765,69705.6765⟩, ⟨124020.937,68314.937⟩, ⟨125927.2705,66944.2705⟩,
    ⟨127851.255,65591.255⟩, ⟨129788.9485,64252.9485⟩, ⟨131751.016,62938.016⟩,
    ⟨133726.8225,61636.8225⟩, ⟨135722.592,60355.592⟩, ⟨137736.789,59092.789⟩,
    ⟨139770.568,57850.568⟩, ⟨141821.518,56624.518⟩, ⟨143891.343,55417.343⟩,
    ⟨145982.1415,54231.1415⟩, ⟨148095.387,53067.387⟩, ⟨150207.526,51903.526⟩,
    ⟨152355.649,50774.649⟩, ⟨154515.6415,49657.6415⟩, ⟨156696.05,48561.05⟩,
    ⟨158887.7575,47475.7575⟩, ⟨161098.159,46410.159⟩, ⟨163329.852,45364.852⟩,
    ⟨165569.053,44327.053⟩, ⟨167837.4005,43318.4005⟩, ⟨170121.6165,42325.6165⟩,
    ⟨172420.4595,41348.4595⟩, ⟨174732.6265,40383.6265⟩, ⟨177062.77,39436.77⟩,
    ⟨179412.502,38509.502⟩, ⟨181774.035,37594.035⟩, ⟨184151.939,36695.939⟩,
    ⟨186551.6895,35818.6895⟩, ⟨188965.691,34955.691⟩, ⟨191402.8095,34115.8095⟩,
    ⟨193857.949,33293.949⟩, ⟨196305.0775,32465.0775⟩, ⟨198774.6715,31657.6715⟩,
    ⟨201271.2585,30877.2585⟩, ⟨203764.78,30093.78⟩, ⟨206299.3695,29351.3695⟩,
    ⟨208818.1365,28594.1365⟩, ⟨211373.115,27872.115⟩, ⟨213946.7465,27168.7465⟩,
    ⟨216532.076,26477.076⟩, ⟨219105.541,25774.541⟩, ⟨221714.5375,25106.5375⟩,
    ⟨224337.5135,24452.5135⟩, ⟨226977.5125,23815.5125⟩, ⟨229613.0655,23174.0655⟩,
    ⟨232270.2685,22555.2685⟩, ⟨234952.2065,21960.2065⟩, ⟨237645.3555,21376.3555⟩,
    ⟨240331.1925,20785.1925⟩, ⟨243034.517,20211.517⟩, ⟨245756.0725,19657.0725⟩,
    ⟨248517.6865,19141.6865⟩, ⟨251232.737,18579.737⟩, ⟨254011.3955,18081.3955⟩,
    ⟨256785.995,17578.995⟩, ⟨259556.44,17073.44⟩, ⟨262368.335,16608.335⟩, ⟨265156.911,16119.911⟩,
    ⟨267965.266,15651.266⟩, ⟨270785.583,15194.583⟩, ⟨273616.0495,14749.0495⟩,
    ⟨276487.4835,14343.4835⟩, ⟨279346.639,13925.639⟩, ⟨282202.509,13504.509⟩,
    ⟨285074.3885,13099.3885⟩, ⟨287942.2855,12691.2855⟩, ⟨290856.018,12328.018⟩,
    ⟨293774.0345,11969.0345⟩, ⟨296678.5145,11596.5145⟩, ⟨299603.6355,11245.6355⟩,
    ⟨302552.6575,10917.6575⟩, ⟨305492.9785,10580.9785⟩, ⟨308466.8605,10277.8605⟩,
    ⟨311392.581,9926.58100000001⟩, ⟨314347.538,9605.538⟩, ⟨317319.4295,9300.42950000003⟩,
    ⟨320285.9785,8989.97850000003⟩, ⟨323301.7325,8728.73249999998⟩, ⟨326298.3235,8448.3235⟩,
    ⟨329301.3105,8175.31050000002⟩, ⟨332301.987,7898.98700000002⟩, ⟨335309.791,7629.79100000003⟩,
    ⟨338370.762,7413.76199999999⟩, ⟨341382.923,7149.92300000001⟩, ⟨344431.1265,6921.12650000001⟩,
    ⟨347464.1545,6677.1545⟩, ⟨350507.28,6443.28000000003⟩, ⟨353619.2345,6278.23450000002⟩,
    ⟨356631.2005,6014.20049999998⟩, ⟨359685.203,5791.20299999998⟩, ⟨362776.7845,5605.78450000001⟩,
    ⟨365886.488,5438.48800000001⟩, ⟨368958.2255,5234.2255⟩, ⟨372060.6825,5059.6825⟩,
    ⟨375165.4335,4887.43349999998⟩, ⟨378237.935,4682.935⟩, ⟨381328.311,4496.31099999999⟩,
    ⟨384430.5225,4322.52250000002⟩, ⟨387576.425,4191.42499999999⟩, ⟨390683.242,4021.24200000003⟩,
    ⟨393839.648,3900.64799999999⟩, ⟨396977.8425,3762.84250000003⟩, ⟨400101.9805,3609.98050000001⟩,
    ⟨403271.296,3502.29599999997⟩, ⟨406409.8425,3363.84250000003⟩, ⟨409529.5485,3206.54849999998⟩,
    ⟨412678.7,3079.70000000001⟩, ⟨415847.423,2971.42300000001⟩, ⟨419020.8035,2867.80349999998⟩,
    ⟨422157.081,2727.08100000001⟩, ⟨425337.749,2630.74900000001⟩, ⟨428479.6165,2496.6165⟩,
    ⟨431700.902,2440.902⟩, ⟨434893.1915,2356.19150000002⟩, ⟨438049.582,2235.58199999999⟩,
    ⟨441210.5415,2120.54149999999⟩, ⟨444379.2545,2012.25449999998⟩, ⟨447577.356,1933.35600000003⟩,
    ⟨450741.931,1820.93099999998⟩, ⟨453959.548,1761.54800000001⟩, ⟨457137.0935,1663.09350000002⟩,
    ⟨460329.846,1578.84600000002⟩, ⟨463537.4815,1509.48149999999⟩, ⟨466732.3345,1427.3345⟩,
    ⟨469960.5615,1379.56150000001⟩, ⟨473164.681,1306.68099999998⟩, ⟨476347.6345,1212.63449999999⟩,
    ⟨479496.173,1084.17300000001⟩, ⟨482813.1645,1124.16450000001⟩, ⟨486025.6995,1060.69949999999⟩,
    ⟨489249.4885,1007.48849999998⟩, ⟨492460.1945,941.194499999983⟩, ⟨495675.8805,879.880500000028⟩,
    ⟨498908.0075,836.007500000007⟩, ⟨502131.802,782.802000000025⟩, ⟨505374.3855,748.385499999975⟩,
    ⟨508550.9915,647.991500000004⟩, ⟨511806.7305,626.730500000005⟩, ⟨515026.776,570.776000000013⟩,
    ⟨518217.0005,484.000500000024⟩, ⟨521523.9855,513.98550000001⟩, ⟨524705.9855,418.985499999952⟩,
    ⟨527950.997,386.996999999974⟩, ⟨531210.0265,370.026500000036⟩, ⟨534472.497,355.496999999974⟩,
    ⟨537750.7315,356.731499999994⟩, ⟨540926.922,255.92200000002⟩, ⟨544207.094,259.094000000041⟩,
    ⟨547429.4345,205.434499999974⟩, ⟨550666.3745,165.374500000034⟩, ⟨553975.3475,197.347500000033⟩,
    ⟨557150.7185,95.718499999959⟩, ⟨560399.6165,67.6165000000037⟩, ⟨563662.697,54.6970000000438⟩,
    ⟨566916.7395,31.7395000000251⟩, ⟨570146.1215,-15.8784999999916⟩, ⟨573447.425,8.42500000004657⟩,
    ⟨576689.6245,-26.3754999999655⟩, ⟨579874.5745,-118.425500000012⟩,
    ⟨583202.337,-66.6629999999423⟩, ⟨586503.0255,-42.9745000000112⟩, ⟨589715.635,-107.364999999991⟩,
    ⟨592910.161,-189.839000000036⟩, ⟨596214.3885,-162.611499999999⟩, ⟨599488.035,-164.964999999967⟩,
    ⟨602740.92,-189.079999999958⟩, ⟨605983.0685,-223.931499999948⟩, ⟨609248.67,-235.329999999958⟩,
    ⟨612491.3605,-269.639500000048⟩, ⟨615787.912,-249.087999999989⟩,
    ⟨619107.5245,-206.475499999942⟩, ⟨622307.9555,-283.04449999996⟩, ⟨625577.333,-290.667000000016⟩,
    ⟨628840.4385,-304.561499999953⟩, ⟨632085.2155,-336.784499999951⟩,
    ⟨635317.6135,-380.386500000022⟩, ⟨638691.7195,-283.280499999993⟩,
    ⟨641887.467,-364.533000000054⟩, ⟨645139.9405,-389.059499999974⟩, ⟨648441.546,-364.454000000027⟩,
    ⟨651666.252,-415.748000000021⟩, ⟨654941.845,-417.155000000028⟩]

def samples18 : Array Sample := #[
    ⟨189084.0,189083.0⟩, ⟨192250.913,185696.913⟩, ⟨195456.774,182348.774⟩, ⟨198696.946,179035.946⟩,
    ⟨201977.762,175762.762⟩, ⟨205294.444,172526.444⟩, ⟨208651.754,169329.754⟩,
    ⟨212042.099,166166.099⟩, ⟨215472.269,163043.269⟩, ⟨218941.91,159958.91⟩,
    ⟨222443.912,156907.912⟩, ⟨225996.845,153906.845⟩, ⟨229568.199,150924.199⟩,
    ⟨233193.568,147996.568⟩, ⟨236844.457,145093.457⟩, ⟨240543.233,142239.233⟩,
    ⟨244279.475,139421.475⟩, ⟨248044.27,136632.27⟩, ⟨251854.588,133889.588⟩, ⟨255693.2,131174.2⟩,
    ⟨259583.619,128511.619⟩, ⟨263494.621,125868.621⟩, ⟨267445.385,123265.385⟩,
    ⟨271454.061,120721.061⟩, ⟨275468.769,118181.769⟩, ⟨279549.456,115709.456⟩,
    ⟨283646.446,113252.446⟩, ⟨287788.198,110840.198⟩, ⟨291966.099,108465.099⟩,
    ⟨296181.164,106126.164⟩, ⟨300431.469,103823.469⟩, ⟨304718.618,101556.618⟩,
    ⟨309024.004,99308.004⟩, ⟨313393.508,97124.508⟩, ⟨317760.803,94937.803⟩, ⟨322209.731,92833.731⟩,
    ⟨326675.061,90745.061⟩, ⟨331160.627,88677.627⟩, ⟨335654.47,86617.47⟩, ⟨340241.442,84650.442⟩,
    ⟨344841.833,82697.833⟩, ⟨349467.132,80769.132⟩, ⟨354130.629,78879.629⟩, ⟨358819.432,77014.432⟩,
    ⟨363574.626,75215.626⟩, ⟨368296.587,73384.587⟩, ⟨373118.482,71652.482⟩, ⟨377914.93,69895.93⟩,
    ⟨382782.301,68209.301⟩, ⟨387680.669,66553.669⟩, ⟨392601.981,64921.981⟩, ⟨397544.323,63310.323⟩,
    ⟨402529.115,61742.115⟩, ⟨407546.018,60205.018⟩, ⟨412593.658,58698.658⟩, ⟨417638.657,57190.657⟩,
    ⟨422762.865,55760.865⟩, ⟨427886.169,54331.169⟩, ⟨433017.167,52908.167⟩, ⟨438213.273,51550.273⟩,
    ⟨443441.254,50225.254⟩, ⟨448692.421,48922.421⟩, ⟨453937.533,47614.533⟩, ⟨459239.049,46362.049⟩,
    ⟨464529.569,45098.569⟩, ⟨469910.083,43926.083⟩, ⟨475274.03,42736.03⟩, ⟨480684.473,41593.473⟩,
    ⟨486070.26,40425.26⟩, ⟨491515.237,39316.237⟩, ⟨496995.651,38243.651⟩, ⟨502476.617,37170.617⟩,
    ⟨507973.609,36114.609⟩, ⟨513497.19,35084.19⟩, ⟨519083.233,34117.233⟩, ⟨524726.509,33206.509⟩,
    ⟨530305.505,32231.505⟩, ⟨535945.728,31318.728⟩, ⟨541584.404,30403.404⟩,
    ⟨547274.055,29540.0550000001⟩, ⟨552967.236,28679.236⟩, ⟨558667.862,27825.862⟩,
    ⟨564360.216,26965.216⟩, ⟨570128.148,26179.148⟩, ⟨575965.08,25462.08⟩, ⟨581701.952,24645.952⟩,
    ⟨587532.523,23922.523⟩, ⟨593361.144,23198.144⟩, ⟨599246.128,22529.128⟩,
    ⟨605033.418,21762.4179999999⟩, ⟨610958.779,21134.779⟩, ⟨616837.117,20459.117⟩,
    ⟨622772.818,19840.818⟩, ⟨628672.04,19187.04⟩, ⟨634675.369,18636.3689999999⟩,
    ⟨640574.831,17982.831⟩, ⟨646585.739,17439.7389999999⟩, ⟨652574.547,16874.547⟩,
    ⟨658611.217,16358.2169999999⟩, ⟨664642.684,15835.684⟩, ⟨670713.914,15352.914⟩,
    ⟨676737.681,14823.681⟩, ⟨682797.313,14329.313⟩, ⟨688837.897,13816.897⟩, ⟨694917.874,13342.874⟩,
    ⟨701009.882,12880.882⟩, ⟨707173.648,12491.648⟩, ⟨713257.254,12021.254⟩, ⟨719415.392,11625.392⟩,
    ⟨725636.761,11293.7610000001⟩, ⟨731710.697,10813.697⟩, ⟨737906.209,10456.209⟩,
    ⟨744103.074,10099.074⟩, ⟨750313.39,9755.39000000001⟩, ⟨756504.185,9393.18500000006⟩,
    ⟨762712.579,9047.57900000003⟩, ⟨768876.985,8657.98499999999⟩, ⟨775167.859,8395.85900000005⟩,
    ⟨781359.0,8033.0⟩, ⟨787615.959,7736.95900000003⟩, ⟨793863.597,7430.59699999995⟩,
    ⟨800245.477,7258.47699999996⟩, ⟨806464.582,6924.58200000005⟩, ⟨812785.294,6691.29399999999⟩,
    ⟨819005.925,6357.92500000005⟩, ⟨825403.057,6202.05700000003⟩, ⟨831676.197,5921.19700000004⟩,
    ⟨837936.284,5628.28399999999⟩, ⟨844266.968,5404.96799999999⟩, ⟨850642.711,5226.71100000001⟩,
    ⟨856959.756,4990.75600000005⟩, ⟨863322.774,4799.77399999998⟩, ⟨869699.931,4622.93099999998⟩,
    ⟨876102.478,4472.478⟩, ⟨882355.787,4171.78700000001⟩, ⟨888694.463,3957.46299999999⟩,
    ⟨895159.952,3868.95200000005⟩, ⟨901536.143,3691.14300000004⟩, ⟨907872.631,3474.63100000005⟩,
    ⟨914293.672,3341.67200000002⟩, ⟨920615.14,3109.14000000001⟩, ⟨927130.974,3071.97400000005⟩,
    ⟨933409.404,2796.40399999998⟩, ⟨939922.178,2756.17799999996⟩, ⟨946331.47,2611.46999999997⟩,
    ⟨952745.93,2471.93000000005⟩, ⟨959209.264,2382.26399999997⟩, ⟨965590.224,2209.22400000005⟩,
    ⟨972077.284,2142.28399999999⟩, ⟨978501.961,2013.96100000001⟩, ⟨984953.19,1911.18999999994⟩,
    ⟨991413.271,1818.27099999995⟩, ⟨997817.479,1668.47900000005⟩, ⟨1004222.658,1519.65800000005⟩,
    ⟨1010725.676,1469.67599999998⟩, ⟨1017177.138,1367.13800000004⟩, ⟨1023612.529,1248.52899999998⟩,
    ⟨1030098.236,1181.23600000003⟩, ⟨1036493.719,1022.71900000004⟩, ⟨1043112.207,1088.20700000005⟩,
    ⟨1049537.036,959.03600000008⟩, ⟨1056008.096,876.095999999903⟩, ⟨1062476.184,791.183999999892⟩,
    ⟨1068942.337,703.337000000058⟩, ⟨1075524.95,731.949999999953⟩, ⟨1081932.864,586.86400000006⟩,
    ⟨1088426.025,526.024999999907⟩, ⟨1094776.005,323.004999999888⟩, ⟨1101327.448,320.448000000091⟩,
    ⟨1107901.673,340.672999999952⟩, ⟨1114423.639,309.638999999966⟩, ⟨1120884.602,216.601999999955⟩,
    ⟨1127324.923,102.922999999952⟩, ⟨1133794.24,19.2399999999907⟩, ⟨1140328.886,-0.114000000059605⟩,
    ⟨1146849.376,-32.6240000000689⟩, ⟨1153346.682,-89.3179999999702⟩,
    ⟨1159836.502,-153.497999999905⟩, ⟨1166478.703,-64.2970000000205⟩,
    ⟨1172953.304,-143.695999999996⟩, ⟨1179391.502,-259.497999999905⟩,
    ⟨1185950.982,-253.017999999924⟩, ⟨1192544.052,-213.948000000091⟩,
    ⟨1198913.41,-397.590000000084⟩, ⟨1205430.994,-434.006000000052⟩,
    ⟨1212015.525,-403.475000000093⟩, ⟨1218674.042,-297.958000000101⟩,
    ⟨1225121.683,-404.317000000039⟩, ⟨1231551.101,-528.898999999976⟩,
    ⟨1238126.379,-506.621000000043⟩, ⟨1244673.795,-513.205000000075⟩,
    ⟨1251260.649,-479.351000000024⟩, ⟨1257697.86,-596.139999999898⟩,
    ⟨1264320.983,-527.016999999993⟩, ⟨1270736.319,-664.681000000099⟩,
    ⟨1277274.694,-680.306000000099⟩, ⟨1283804.95,-704.050000000047⟩,
    ⟨1290211.514,-850.486000000034⟩, ⟨1296858.568,-757.43200000003⟩,
    ⟨1303455.691,-713.308999999892⟩]

end DistinctCount.Correction
